import SetProtocol.Core.PositionCredit
import SetProtocol.Modules.AirdropModule

/-!
# Absorbing again

What is absorbed ends up in a unit that is rounded down twice, so part of the balance
stays untracked and looks like an airdrop to the next call.  Repeated calls take no
second fee exactly if the fee on this residue is zero, or the call is refused.
-/

namespace SetProtocol.AirdropModule

open Transaction Rounding PreciseUnitMath

variable {module : Address} {world next first last : World} {sender token : Address}

/-- What is held in excess of the tracked balance. -/
def airdropped (world : World) (token : Address) : ℕ :=
  world.heldBalance token -
    world.setToken.totalSupply * world.setToken.defaultRealUnit token / preciseUnit

/-- The fee on an amount. -/
def feeOn (world : World) (amount : ℕ) : ℕ :=
  amount * world.airdropSettings.airdropFee / preciseUnit

/-- The protocol's part of a fee. -/
def protocolShare (module : Address) (world : World) (fees : ℕ) : ℕ :=
  fees * world.controller.getModuleFee module airdropModuleProtocolFeeIndex / preciseUnit

/-- A fee can be split, and no part of it goes to the SetToken itself. -/
structure FeesPayable (module : Address) (world : World) (fees : ℕ) : Prop where
  fits : fees * world.controller.getModuleFee module airdropModuleProtocolFeeIndex ≤
    maxUint256
  share_le : protocolShare module world fees ≤ fees
  manager : 0 < fees - protocolShare module world fees →
    world.setTokenAddress ≠ world.airdropSettings.feeRecipient
  protocol : 0 < protocolShare module world fees →
    world.setTokenAddress ≠ world.controller.feeRecipient

/-- The unit that a balance is given, before the SetToken converts it. -/
def spreadUnit (setToken : SetToken) (balance : ℕ) : ℕ :=
  balance * preciseUnit / setToken.totalSupply

/-- The unit that a balance is given, as it is read back. -/
def storedUnit (setToken : SetToken) (balance : ℕ) : ℕ :=
  thereAndBack preciseUnit setToken.positionMultiplier.toNat (spreadUnit setToken balance)

/-- What an absorption changes: the balances and the position of the token. -/
structure AbsorbedFrom (world next : World) : Prop where
  settings : next.airdropSettings = world.airdropSettings
  airdrops : next.isAirdrop = world.isAirdrop
  controller : next.controller = world.controller
  address : next.setTokenAddress = world.setTokenAddress
  supply : next.setToken.totalSupply = world.setToken.totalSupply
  multiplier : next.setToken.positionMultiplier = world.setToken.positionMultiplier
  manager : next.setToken.manager = world.setToken.manager
  states : next.setToken.moduleStates = world.setToken.moduleStates
  locked : next.setToken.isLocked = world.setToken.isLocked
  locker : next.setToken.locker = world.setToken.locker

/-! ## One call -/

/-- Manager and protocol together take the fee on the airdropped amount. -/
theorem handleFees_eq_ok {amount net take fees : ℕ} {chain : Chain}
    (hcall : handleFees module world token amount = .ok (chain, net, take, fees)) :
    fees = feeOn world amount ∧ FeesPayable module world fees ∧ net + take = fees ∧
      chain.heldBalance token + fees = world.heldBalance token ∧
      ∃ balances, chain = { world.toChain with balances := balances } := by
  unfold handleFees at hcall
  split at hcall
  · simp only [Chain.getModuleFee, bind_eq_ok, preciseMul_eq_ok, SafeMath.sub_eq_ok, pure_eq_ok,
      Prod.mk.injEq] at hcall
    obtain ⟨_, ⟨-, rfl⟩, _, ⟨hfits, rfl⟩, _, ⟨hshare, rfl⟩, managed, hmanager, paid, hprotocol,
      rfl, rfl, rfl, rfl⟩ := hcall
    obtain ⟨hnet, hheld, -⟩ := Chain.heldBalance_of_strictInvokeTransfer hmanager
    obtain ⟨_, hframe⟩ := Chain.strictInvokeTransfer_frame hmanager
    have hself : 0 < feeOn world amount - protocolShare module world (feeOn world amount) →
        world.setTokenAddress ≠ world.airdropSettings.feeRecipient := fun hpositive =>
      (Chain.strictInvokeTransfer_eq_ok hpositive hmanager).1
    change managed.payProtocolFeeFromSetToken module token
      (protocolShare module world (feeOn world amount)) = .ok paid at hprotocol
    rw [Chain.payProtocolFeeFromSetToken_eq] at hprotocol
    obtain ⟨hfunds, hleft, -⟩ := Chain.heldBalance_of_strictInvokeTransfer hprotocol
    have hother : 0 < protocolShare module world (feeOn world amount) →
        world.setTokenAddress ≠ world.controller.feeRecipient := by
      intro hpositive
      have hdistinct := (Chain.strictInvokeTransfer_eq_ok hpositive hprotocol).1
      rw [hframe] at hdistinct
      exact hdistinct
    have hbalances : ∃ balances, paid = { world.toChain with balances := balances } := by
      obtain ⟨balances, hpaid⟩ := Chain.strictInvokeTransfer_frame hprotocol
      exact ⟨balances, by rw [hpaid, hframe]⟩
    refine ⟨rfl, ⟨hfits, hshare, hself, hother⟩, Nat.sub_add_cancel hshare, ?_, hbalances⟩
    change feeOn world amount - protocolShare module world (feeOn world amount) ≤ _ at hnet
    change managed.heldBalance token = world.heldBalance token -
      (feeOn world amount - protocolShare module world (feeOn world amount)) at hheld
    change protocolShare module world (feeOn world amount) ≤ feeOn world amount at hshare
    change paid.heldBalance token + feeOn world amount = _
    omega
  · rename_i hnone
    have hzero : feeOn world amount = 0 := by
      rw [feeOn, Nat.eq_zero_of_not_pos hnone, Nat.mul_zero, Nat.zero_div]
    cases hcall
    rw [hzero]
    refine ⟨rfl, ⟨?_, ?_, ?_, ?_⟩, rfl, rfl, _, rfl⟩ <;>
      simp [protocolShare]

theorem handleFees_returns {amount : ℕ}
    (hguard : world.setToken.onlyModuleWhenLockedOnlyLocker world.controller module = .ok ())
    (hfits : amount * world.airdropSettings.airdropFee ≤ maxUint256)
    (hpayable : FeesPayable module world (feeOn world amount))
    (hfunds : feeOn world amount ≤ world.heldBalance token) :
    ∃ result, handleFees module world token amount = .ok result := by
  unfold handleFees
  split
  · obtain ⟨managed, hmanager⟩ : ∃ managed, world.strictInvokeTransfer module token
        world.airdropSettings.feeRecipient (feeOn world amount -
          protocolShare module world (feeOn world amount)) = .ok managed :=
      Chain.strictInvokeTransfer_returns hguard hpayable.manager
        ((Nat.sub_le _ _).trans hfunds)
    obtain ⟨hnet, hheld, -⟩ := Chain.heldBalance_of_strictInvokeTransfer hmanager
    obtain ⟨_, hframe⟩ := Chain.strictInvokeTransfer_frame hmanager
    have hleft : protocolShare module world (feeOn world amount) ≤
        managed.heldBalance token := by
      have hshare := hpayable.share_le
      change managed.heldBalance token = world.heldBalance token -
        (feeOn world amount - protocolShare module world (feeOn world amount)) at hheld
      omega
    obtain ⟨paid, hprotocol⟩ : ∃ paid, managed.payProtocolFeeFromSetToken module token
        (protocolShare module world (feeOn world amount)) = .ok paid := by
      rw [Chain.payProtocolFeeFromSetToken_eq]
      refine Chain.strictInvokeTransfer_returns ?_ (fun hpositive => ?_) hleft
      · rw [hframe]
        exact hguard
      · rw [hframe]
        exact hpayable.protocol hpositive
    refine ⟨(paid, feeOn world amount - protocolShare module world (feeOn world amount),
      protocolShare module world (feeOn world amount), feeOn world amount), ?_⟩
    simp only [Chain.getModuleFee, bind_eq_ok, preciseMul_eq_ok, SafeMath.sub_eq_ok, pure_eq_ok]
    exact ⟨_, ⟨hfits, rfl⟩, _, ⟨hpayable.fits, rfl⟩, _, ⟨hpayable.share_le, rfl⟩, managed,
      hmanager, paid, hprotocol, rfl⟩
  · exact ⟨_, rfl⟩

/-- Who may absorb what. -/
def MayAbsorb (module : Address) (world : World) (sender token : Address) : Prop :=
  isValidCaller world sender ∧ world.isSetValidAndInitialized module ∧
    world.isAirdrop token = true

theorem absorb_iff : absorb module world sender token = .ok next ↔
    MayAbsorb module world sender token ∧
      handleAirdropPosition module world token = .ok next := by
  simp only [absorb, absorbToken, Chain.validateOnlyValidAndInitializedSet, bind_eq_ok,
    require_eq_ok, exists_const, MayAbsorb, and_assoc]

/-- The tracked balance as the position library computes it. -/
theorem getDefaultTrackedBalance_eq_ok {setToken : SetToken} {tracked : ℕ} :
    Position.getDefaultTrackedBalance setToken token = .ok tracked ↔
      setToken.getDefaultPositionRealUnit token =
          .ok (setToken.defaultRealUnit token : ℤ) ∧
        setToken.totalSupply * setToken.defaultRealUnit token ≤ maxUint256 ∧
        setToken.totalSupply * setToken.defaultRealUnit token / preciseUnit = tracked := by
  simp only [Position.getDefaultTrackedBalance, bind_eq_ok, preciseMul_eq_ok]
  constructor
  · rintro ⟨unit, hunit, cast, hcast, hfits, htracked⟩
    rw [SetToken.defaultRealUnit_of_ok hunit hcast]
    exact ⟨SafeCast.toUint256_eq_ok.mp hcast ▸ hunit, hfits, htracked⟩
  · rintro ⟨hunit, hfits, htracked⟩
    exact ⟨_, hunit, _, SafeCast.toUint256_eq_ok.mpr rfl, hfits, htracked⟩

/-- What a call with something to absorb needs. -/
structure Absorbable (module : Address) (world : World) (token : Address) : Prop where
  guard : world.setToken.onlyModuleWhenLockedOnlyLocker world.controller module = .ok ()
  readable : world.setToken.getDefaultPositionRealUnit token =
    .ok (world.setToken.defaultRealUnit token : ℤ)
  tracked_fits :
    world.setToken.totalSupply * world.setToken.defaultRealUnit token ≤ maxUint256
  tracked_le :
    world.setToken.totalSupply * world.setToken.defaultRealUnit token / preciseUnit ≤
      world.heldBalance token
  fee_fits : airdropped world token * world.airdropSettings.airdropFee ≤ maxUint256
  payable : FeesPayable module world (feeOn world (airdropped world token))
  fee_le : feeOn world (airdropped world token) ≤ world.heldBalance token
  supply : 0 < world.setToken.totalSupply
  balance_fits : (world.heldBalance token - feeOn world (airdropped world token)) *
    preciseUnit ≤ maxUint256
  unit_fits : spreadUnit world.setToken
    (world.heldBalance token - feeOn world (airdropped world token)) * preciseUnitInt ≤
      maxInt256
  converts : ¬Position.ConvertsToZero world.setToken.positionMultiplier
    (spreadUnit world.setToken
      (world.heldBalance token - feeOn world (airdropped world token)))

/-- A call with something to absorb takes the fee and spreads the rest. -/
theorem absorbs_of_ok (hkept : Bookkept world.setToken)
    (hcall : handleAirdropPosition module world token = .ok next)
    (hsome : 0 < airdropped world token) :
    Absorbable module world token ∧ AbsorbedFrom world next ∧ Bookkept next.setToken ∧
      next.heldBalance token =
        world.heldBalance token - feeOn world (airdropped world token) ∧
      next.setToken.defaultRealUnit token = storedUnit world.setToken
        (world.heldBalance token - feeOn world (airdropped world token)) ∧
      next.setToken.getDefaultPositionRealUnit token =
        .ok (next.setToken.defaultRealUnit token : ℤ) := by
  simp only [handleAirdropPosition, bind_eq_ok, getDefaultTrackedBalance_eq_ok,
    SafeMath.sub_eq_ok] at hcall
  obtain ⟨_, ⟨hread, htracked, rfl⟩, _, ⟨hcovered, rfl⟩, hcall⟩ := hcall
  change (if 0 < airdropped world token then _ else _) = _ at hcall
  rw [if_pos hsome] at hcall
  simp only [bind_eq_ok, pure_eq_ok] at hcall
  obtain ⟨⟨chain, net, take, fees⟩, hfees, newUnit, hunit, edited, hedit, rfl⟩ := hcall
  obtain ⟨rfl, hpayable, -, hheld, _, rfl⟩ := handleFees_eq_ok hfees
  simp only [getPostAirdropUnit, Position.getDefaultPositionUnit, bind_eq_ok,
    SafeMath.sub_eq_ok, preciseDiv_eq_ok] at hunit
  obtain ⟨_, ⟨hless, rfl⟩, hbalance, hsupply, rfl⟩ := hunit
  obtain ⟨hguard, hsmall, hconverts⟩ := (Position.editDefaultPosition_returns hkept
    ⟨_, hread⟩).mp ⟨edited, hedit⟩
  obtain ⟨hmultiplier, hnew, -⟩ := Position.defaultRealUnit_of_edit hkept.multiplier_pos hedit
  have hfee : airdropped world token * world.airdropSettings.airdropFee ≤ maxUint256 := by
    unfold handleFees at hfees
    split at hfees
    · simp only [bind_eq_ok, preciseMul_eq_ok] at hfees
      obtain ⟨_, ⟨hfits, -⟩, -⟩ := hfees
      exact hfits
    · rename_i hnone
      rw [Nat.eq_zero_of_not_pos hnone, Nat.mul_zero]
      exact Nat.zero_le _
  refine ⟨⟨hguard, hread, htracked, hcovered, hfee, hpayable, hless, hsupply, hbalance, hsmall,
    hconverts⟩, ?_, hkept.editDefaultPosition hedit, ?_, hnew,
    Position.getDefaultPositionRealUnit_of_edit hkept.multiplier_pos hedit⟩
  · obtain ⟨_, _, _, -, -, rfl, -⟩ := Position.editDefaultPosition_eq_ok hedit
    exact ⟨rfl, rfl, rfl, rfl, rfl, rfl, rfl, rfl, rfl, rfl⟩
  · exact Nat.eq_sub_of_add_eq hheld

theorem absorbs_of_absorbable (hkept : Bookkept world.setToken)
    (hable : Absorbable module world token) :
    ∃ next, handleAirdropPosition module world token = .ok next := by
  by_cases hsome : 0 < airdropped world token
  · obtain ⟨⟨chain, net, take, fees⟩, hfees⟩ :=
      handleFees_returns hable.guard hable.fee_fits hable.payable hable.fee_le
    obtain ⟨rfl, -, -, -, balances, rfl⟩ := handleFees_eq_ok hfees
    obtain ⟨edited, hedit⟩ := (Position.editDefaultPosition_returns hkept
      ⟨_, hable.readable⟩).mpr ⟨hable.guard, hable.unit_fits, hable.converts⟩
    refine ⟨world.withChain
      (Chain.withSetToken { world.toChain with balances := balances } edited), ?_⟩
    simp only [handleAirdropPosition, bind_eq_ok, getDefaultTrackedBalance_eq_ok,
      SafeMath.sub_eq_ok]
    refine ⟨_, ⟨hable.readable, hable.tracked_fits, rfl⟩, _, ⟨hable.tracked_le, rfl⟩, ?_⟩
    change (if 0 < airdropped world token then _ else _) = _
    rw [if_pos hsome]
    simp only [bind_eq_ok, pure_eq_ok, getPostAirdropUnit, Position.getDefaultPositionUnit,
      SafeMath.sub_eq_ok, preciseDiv_eq_ok]
    exact ⟨_, hfees, _, ⟨_, ⟨hable.fee_le, rfl⟩, hable.balance_fits, hable.supply, rfl⟩, edited,
      hedit, rfl⟩
  · refine ⟨world, ?_⟩
    simp only [handleAirdropPosition, bind_eq_ok, getDefaultTrackedBalance_eq_ok,
      SafeMath.sub_eq_ok]
    refine ⟨_, ⟨hable.readable, hable.tracked_fits, rfl⟩, _, ⟨hable.tracked_le, rfl⟩, ?_⟩
    change (if 0 < airdropped world token then _ else _) = _
    rw [if_neg hsome]
    rfl

/-- A call with nothing to absorb does nothing. -/
theorem absorbs_nothing (hcall : handleAirdropPosition module world token = .ok next)
    (hnone : airdropped world token = 0) : next = world := by
  simp only [handleAirdropPosition, bind_eq_ok, getDefaultTrackedBalance_eq_ok,
    SafeMath.sub_eq_ok] at hcall
  obtain ⟨_, ⟨-, -, rfl⟩, _, ⟨-, rfl⟩, hcall⟩ := hcall
  change (if 0 < airdropped world token then _ else _) = _ at hcall
  rw [hnone, if_neg (Nat.lt_irrefl 0), pure_eq_ok] at hcall
  exact hcall.symm

/-! ## One call after another -/

/-- The balance after the fee on what is airdropped now. -/
def balanceLeft (world : World) (token : Address) : ℕ :=
  world.heldBalance token - feeOn world (airdropped world token)

/-- What the two roundings of the unit leave untracked of that balance. -/
def residue (world : World) (token : Address) : ℕ :=
  balanceLeft world token - world.setToken.totalSupply *
    storedUnit world.setToken (balanceLeft world token) / preciseUnit

/-- Absorb the same token for one caller after the other. -/
def absorbRepeatedly (module : Address) (world : World) (token : Address)
    (callers : List Address) : Outcome World :=
  callers.foldlM (fun world sender => absorb module world sender token) world

/-- However often the token is absorbed, the fees stay within one fee on what was
airdropped at first, and no call after the first lowers the unit. -/
def ChargedOnce (module : Address) (world : World) (token : Address) : Prop :=
  ∀ callers last, callers ≠ [] →
    absorbRepeatedly module world token callers = .ok last →
    world.heldBalance token - last.heldBalance token ≤
        feeOn world (airdropped world token) ∧
      ∀ sender next, absorb module last sender token = .ok next →
        last.setToken.defaultRealUnit token ≤ next.setToken.defaultRealUnit token

/-- Nothing was airdropped, or no fee is due on the residue, or a call that takes this
fee is refused: it cannot be split and paid, or the lower unit does not convert. -/
def ResidueUncharged (module : Address) (world : World) (token : Address) : Prop :=
  airdropped world token = 0 ∨ feeOn world (residue world token) = 0 ∨
    ¬FeesPayable module world (feeOn world (residue world token)) ∨
    Position.ConvertsToZero world.setToken.positionMultiplier (spreadUnit world.setToken
      (balanceLeft world token - feeOn world (residue world token)))

/-- Nothing is due any more, and the unit is that of the balance. -/
def Settled (world : World) (token : Address) : Prop :=
  airdropped world token = 0 ∨ feeOn world (airdropped world token) = 0 ∧
    world.setToken.defaultRealUnit token =
      storedUnit world.setToken (world.heldBalance token)

theorem feeOn_le {amount : ℕ} (hfee : world.airdropSettings.airdropFee ≤ preciseUnit) :
    feeOn world amount ≤ amount :=
  Nat.div_le_of_le_mul ((Nat.mul_le_mul_left amount hfee).trans (Nat.mul_comm _ _).le)

/-- A stored unit promises at most the balance it was computed from. -/
theorem storedUnit_owed_le (setToken : SetToken) (balance : ℕ) :
    setToken.totalSupply * storedUnit setToken balance ≤ balance * preciseUnit :=
  (Nat.mul_le_mul_left _ (thereAndBack_le preciseUnit_pos _ _)).trans (Nat.mul_div_le _ _)

theorem storedUnit_congr {setToken other : SetToken} (balance : ℕ)
    (hsupply : other.totalSupply = setToken.totalSupply)
    (hmultiplier : other.positionMultiplier = setToken.positionMultiplier) :
    storedUnit other balance = storedUnit setToken balance := by
  rw [storedUnit, storedUnit, spreadUnit, spreadUnit, hsupply, hmultiplier]

/-- After a call with something to absorb, what seems airdropped is the residue. -/
theorem airdropped_of_absorbed (hfrom : AbsorbedFrom world next)
    (hheld : next.heldBalance token = balanceLeft world token)
    (hunit : next.setToken.defaultRealUnit token =
      storedUnit world.setToken (balanceLeft world token)) :
    airdropped next token = residue world token := by
  rw [airdropped, residue, hheld, hfrom.supply, hunit]

theorem feeOn_of_absorbed (hfrom : AbsorbedFrom world next) (amount : ℕ) :
    feeOn next amount = feeOn world amount := by
  rw [feeOn, feeOn, hfrom.settings]

theorem feesPayable_of_absorbed (hfrom : AbsorbedFrom world next) {fees : ℕ} :
    FeesPayable module next fees ↔ FeesPayable module world fees := by
  have hshare : protocolShare module next fees = protocolShare module world fees := by
    rw [protocolShare, protocolShare, hfrom.controller]
  constructor
  · rintro ⟨hfits, hle, hmanager, hprotocol⟩
    rw [hshare] at hle hmanager hprotocol
    rw [hfrom.controller] at hfits hprotocol
    rw [hfrom.settings, hfrom.address] at hmanager
    rw [hfrom.address] at hprotocol
    exact ⟨hfits, hle, hmanager, hprotocol⟩
  · rintro ⟨hfits, hle, hmanager, hprotocol⟩
    rw [← hshare] at hle hmanager hprotocol
    rw [← hfrom.controller] at hfits hprotocol
    rw [← hfrom.settings, ← hfrom.address] at hmanager
    rw [← hfrom.address] at hprotocol
    exact ⟨hfits, hle, hmanager, hprotocol⟩

theorem mayAbsorb_of_absorbed (hfrom : AbsorbedFrom world next)
    (hmay : MayAbsorb module world sender token) : MayAbsorb module next sender token := by
  obtain ⟨hcaller, ⟨hset, hstate⟩, hairdrop⟩ := hmay
  refine ⟨?_, ⟨?_, ?_⟩, ?_⟩
  · rw [isValidCaller, hfrom.settings, hfrom.manager]
    exact hcaller
  · rw [hfrom.controller, hfrom.address]
    exact hset
  · rw [hfrom.states]
    exact hstate
  · rw [hfrom.airdrops]
    exact hairdrop

/-- A settled token stays as it is. -/
theorem settled_of_absorb (hkept : Bookkept world.setToken) (hsettled : Settled world token)
    (hcall : absorb module world sender token = .ok next) :
    Settled next token ∧ Bookkept next.setToken ∧
      next.heldBalance token = world.heldBalance token ∧
      next.setToken.defaultRealUnit token = world.setToken.defaultRealUnit token := by
  obtain ⟨-, hcall⟩ := absorb_iff.mp hcall
  by_cases hnone : airdropped world token = 0
  · obtain rfl := absorbs_nothing hcall hnone
    exact ⟨hsettled, hkept, rfl, rfl⟩
  · obtain ⟨hfee, hunit⟩ := hsettled.resolve_left hnone
    obtain ⟨-, hfrom, hkept', hheld, hnew, -⟩ :=
      absorbs_of_ok hkept hcall (Nat.pos_of_ne_zero hnone)
    rw [hfee, Nat.sub_zero] at hheld hnew
    rw [← hunit] at hnew
    have hsame : airdropped next token = airdropped world token := by
      rw [airdropped, airdropped, hheld, hnew, hfrom.supply]
    refine ⟨.inr ⟨?_, ?_⟩, hkept', hheld, hnew⟩
    · rw [hsame, feeOn_of_absorbed hfrom, hfee]
    · rw [hnew, hunit, hheld, storedUnit_congr _ hfrom.supply hfrom.multiplier]

/-- So it does over a whole run. -/
theorem settled_of_run (hkept : Bookkept world.setToken)
    (hsettled : Settled world token) {callers : List Address}
    (hrun : absorbRepeatedly module world token callers = .ok last) :
    Settled last token ∧ Bookkept last.setToken ∧
      last.heldBalance token = world.heldBalance token := by
  have hstep : ∀ caller ∈ callers, ∀ state after : World,
      (Settled state token ∧ Bookkept state.setToken ∧
        state.heldBalance token = world.heldBalance token) →
      absorb module state caller token = .ok after →
      Settled after token ∧ Bookkept after.setToken ∧
        after.heldBalance token = world.heldBalance token := by
    rintro caller - state after ⟨hsettled, hkept, hheld⟩ hcall
    obtain ⟨hsettled', hkept', hsame, -⟩ := settled_of_absorb hkept hsettled hcall
    exact ⟨hsettled', hkept', hsame.trans hheld⟩
  exact foldlM_preserves hstep ⟨hsettled, hkept, rfl⟩ hrun

/-- Where a fee is due on the residue and can be taken, a second call takes it. -/
theorem absorbs_residue (hkept : Bookkept world.setToken)
    (hfee : world.airdropSettings.airdropFee ≤ preciseUnit)
    (hcall : absorb module world sender token = .ok first)
    (hcharged : ¬ResidueUncharged module world token) :
    ∃ second, absorb module first sender token = .ok second ∧
      second.heldBalance token =
        balanceLeft world token - feeOn world (residue world token) := by
  obtain ⟨hmay, hfirst⟩ := absorb_iff.mp hcall
  simp only [ResidueUncharged, not_or, not_not] at hcharged
  obtain ⟨hsome, hdue, hpayable, hconverts⟩ := hcharged
  obtain ⟨hable, hfrom, hkept', hheld, hunit, hread⟩ :=
    absorbs_of_ok hkept hfirst (Nat.pos_of_ne_zero hsome)
  have hagain : airdropped first token = residue world token :=
    airdropped_of_absorbed hfrom hheld hunit
  have hfeeAgain : feeOn first (airdropped first token) =
      feeOn world (residue world token) := by
    rw [hagain, feeOn_of_absorbed hfrom]
  have howed := storedUnit_owed_le world.setToken (balanceLeft world token)
  have hresidue : residue world token ≤ balanceLeft world token := Nat.sub_le _ _
  have hdueLe : feeOn world (residue world token) ≤ residue world token := feeOn_le hfee
  have hbalance : balanceLeft world token * preciseUnit ≤ maxUint256 := hable.balance_fits
  have hspread : spreadUnit world.setToken
      (balanceLeft world token - feeOn world (residue world token)) ≤
        spreadUnit world.setToken (balanceLeft world token) :=
    Nat.div_le_div_right (Nat.mul_le_mul_right _ (Nat.sub_le _ _))
  have hsame : ∀ balance, spreadUnit first.setToken balance =
      spreadUnit world.setToken balance := by
    intro balance
    rw [spreadUnit, spreadUnit, hfrom.supply]
  have hableAgain : Absorbable module first token := by
    refine ⟨?_, hread, ?_, ?_, ?_, ?_, ?_, ?_, ?_, ?_, ?_⟩
    · rw [hfrom.controller, SetToken.onlyModuleWhenLockedOnlyLocker_congr hfrom.states
        hfrom.locked hfrom.locker]
      exact hable.guard
    · rw [hfrom.supply, hunit]
      exact howed.trans hbalance
    · rw [hfrom.supply, hunit, hheld]
      exact Nat.div_le_of_le_mul (howed.trans (Nat.mul_comm _ _).le)
    · rw [hagain, hfrom.settings]
      exact (Nat.mul_le_mul hresidue hfee).trans hbalance
    · rw [hfeeAgain, feesPayable_of_absorbed hfrom]
      exact hpayable
    · rw [hfeeAgain, hheld]
      exact hdueLe.trans hresidue
    · rw [hfrom.supply]
      exact hable.supply
    · rw [hfeeAgain, hheld]
      exact (Nat.mul_le_mul_right _ (Nat.sub_le _ _)).trans hbalance
    · rw [hfeeAgain, hheld, hsame]
      exact (mul_le_mul_of_nonneg_right (Nat.cast_le.mpr hspread)
        preciseUnitInt_pos.le).trans hable.unit_fits
    · rw [hfeeAgain, hheld, hsame, hfrom.multiplier]
      exact hconverts
  obtain ⟨second, hsecond⟩ := absorbs_of_absorbable hkept' hableAgain
  have hpositive : 0 < airdropped first token := by
    rw [hagain]
    exact (Nat.pos_of_ne_zero hdue).trans_le hdueLe
  obtain ⟨-, -, -, hleft, -⟩ := absorbs_of_ok hkept' hsecond hpositive
  rw [hfeeAgain, hheld] at hleft
  exact ⟨second, absorb_iff.mpr ⟨mayAbsorb_of_absorbed hfrom hmay, hsecond⟩, hleft⟩

/-- After a first call either nothing is due any more, or every further call is
refused. -/
theorem settled_or_refused (hkept : Bookkept world.setToken)
    (hcall : absorb module world sender token = .ok first)
    (huncharged : ResidueUncharged module world token) :
    Bookkept first.setToken ∧
      world.heldBalance token - first.heldBalance token ≤
        feeOn world (airdropped world token) ∧
      (Settled first token ∨
        ∀ caller next, absorb module first caller token ≠ .ok next) := by
  obtain ⟨-, hfirst⟩ := absorb_iff.mp hcall
  by_cases hnone : airdropped world token = 0
  · obtain rfl := absorbs_nothing hfirst hnone
    exact ⟨hkept, by omega, .inl (.inl hnone)⟩
  · obtain ⟨-, hfrom, hkept', hheld, hunit, -⟩ :=
      absorbs_of_ok hkept hfirst (Nat.pos_of_ne_zero hnone)
    have hagain : airdropped first token = residue world token :=
      airdropped_of_absorbed hfrom hheld hunit
    have hfeeAgain : feeOn first (airdropped first token) =
        feeOn world (residue world token) := by
      rw [hagain, feeOn_of_absorbed hfrom]
    refine ⟨hkept', by omega, ?_⟩
    by_cases hdue : feeOn world (residue world token) = 0
    · refine .inl (.inr ⟨hfeeAgain.trans hdue, ?_⟩)
      rw [hunit, hheld, storedUnit_congr _ hfrom.supply hfrom.multiplier]
    · refine .inr fun caller next hnext => ?_
      obtain ⟨-, hnext⟩ := absorb_iff.mp hnext
      have hpositive : 0 < airdropped first token := by
        refine Nat.pos_of_ne_zero fun hzero => hdue ?_
        rw [← hagain, hzero, feeOn, Nat.zero_mul, Nat.zero_div]
      obtain ⟨hable, -⟩ := absorbs_of_ok hkept' hnext hpositive
      have hpayable := hable.payable
      have hconverts := hable.converts
      rw [hfeeAgain, feesPayable_of_absorbed hfrom] at hpayable
      rw [hfeeAgain, hheld, spreadUnit, hfrom.supply, hfrom.multiplier] at hconverts
      rcases (huncharged.resolve_left hnone).resolve_left hdue with hrefused | hlost
      · exact hrefused hpayable
      · exact hconverts hlost

/-- Airdrop fees are charged once exactly if the residue of the first absorption is
left uncharged. -/
theorem chargedOnce_iff (hkept : Bookkept world.setToken)
    (hfee : world.airdropSettings.airdropFee ≤ preciseUnit)
    (hcall : absorb module world sender token = .ok first) :
    ChargedOnce module world token ↔ ResidueUncharged module world token := by
  constructor
  · intro honce
    by_contra hcharged
    obtain ⟨second, hsecond, hleft⟩ := absorbs_residue hkept hfee hcall hcharged
    have hrun : absorbRepeatedly module world token [sender, sender] = .ok second := by
      simp only [absorbRepeatedly, List.foldlM_cons, List.foldlM_nil, hcall, ok_bind,
        hsecond, pure_eq_ok]
    obtain ⟨htotal, -⟩ := honce _ _ (List.cons_ne_nil _ _) hrun
    simp only [ResidueUncharged, not_or] at hcharged
    have hdue := Nat.pos_of_ne_zero hcharged.2.1
    have hresidue : residue world token ≤ balanceLeft world token := Nat.sub_le _ _
    have hdueLe : feeOn world (residue world token) ≤ residue world token := feeOn_le hfee
    rw [hleft, balanceLeft] at htotal
    rw [balanceLeft] at hresidue
    omega
  · intro huncharged callers last hcallers hrun
    obtain ⟨caller, rest, rfl⟩ := List.exists_cons_of_ne_nil hcallers
    rw [absorbRepeatedly, List.foldlM_cons, bind_eq_ok] at hrun
    obtain ⟨begun, hbegun, hrun⟩ := hrun
    obtain ⟨hkept', htotal, hsettled | hrefused⟩ := settled_or_refused hkept hbegun huncharged
    · obtain ⟨hsettled', hkeptLast, hheld⟩ := settled_of_run hkept' hsettled hrun
      rw [hheld]
      exact ⟨htotal, fun sender next hnext =>
        (settled_of_absorb hkeptLast hsettled' hnext).2.2.2.ge⟩
    · cases rest with
      | nil =>
          rw [List.foldlM_nil, pure_eq_ok] at hrun
          subst hrun
          exact ⟨htotal, fun sender next hnext => absurd hnext (hrefused sender next)⟩
      | cons other rest =>
          rw [List.foldlM_cons, bind_eq_ok] at hrun
          obtain ⟨after, hafter, -⟩ := hrun
          exact absurd hafter (hrefused other after)

/-- A thousand shares, and 3001 units of token 11 sent to the SetToken; half of what is
airdropped goes to account 4. -/
def sentWorld : World where
  controller := { Controller.deploy 1 2 with
    isSet := fun setToken => setToken == 9
    isModule := fun module => module == 5 }
  setTokenAddress := 9
  setToken := { SetToken.deploy [10] [50] [5] 7 with
    moduleStates := fun module => if module = 5 then .INITIALIZED else .NONE
    totalSupply := 1000 * 10 ^ 18 }
  balances := fun token holder =>
    if holder = 9 then if token = 10 then 50000 else if token = 11 then 3001 else 0 else 0
  timestamp := 0
  airdropSettings := ⟨[11], 4, 5 * 10 ^ 17, true⟩
  isAirdrop := fun token => token == 11

theorem bookkept_sentWorld : Bookkept sentWorld.setToken :=
  (SetTokenCreator.bookkept_deploy rfl (by decide) (by decide) :
    Bookkept (SetToken.deploy [10] [50] [5] 7)).of_same_positions rfl rfl rfl

theorem chargedOnce_sentWorld :
    ChargedOnce 5 sentWorld 11 ↔ ResidueUncharged 5 sentWorld 11 := by
  obtain ⟨first, hfirst, -⟩ := returns_iff.mp (by decide +kernel :
    Returns (absorb 5 sentWorld 3 11) fun _ => True)
  exact chargedOnce_iff bookkept_sentWorld (by decide) hfirst

/-- The first call takes 1500 of 3001.  The unit of 1 tracks only 1000 of the 1501 left,
and the second call takes another 250. -/
theorem charged_twice : ¬ChargedOnce 5 sentWorld 11 := by
  intro honce
  obtain ⟨second, hsecond, hheld⟩ := returns_iff.mp (by decide +kernel :
    Returns (absorbRepeatedly 5 sentWorld 11 [3, 3]) fun second =>
      second.heldBalance 11 = 1251)
  obtain ⟨htotal, -⟩ := honce [3, 3] second (List.cons_ne_nil _ _) hsecond
  rw [hheld] at htotal
  exact absurd htotal (by decide +kernel)

end SetProtocol.AirdropModule
