import SetProtocol.Core.PositionCredit
import SetProtocol.Core.PositionList
import SetProtocol.Library.Allocation
import SetProtocol.Library.Tally
import SetProtocol.Library.Trace
import SetProtocol.Modules.NotionalTradeModule

/-!
# Redeeming what has matured

One redemption burns fCash, pays another token and recomputes the default positions of both.
The loop is a trace of redemptions, one for each due entry of the list of positions that was
taken before the first of them.
-/

namespace SetProtocol.NotionalTradeModule

open Transaction PreciseUnitMath

variable {P : Type} {notional : Notional P} {module fCashPosition receiveToken : Address}
variable {world next redeemedWorld : World P} {fCashAmount minReceiveAmount received : ℕ}
variable {toUnderlying : Bool}

/-- What the default position of a token stands for. -/
def trackedNotional (world : World P) (token : Address) : ℕ :=
  Allocation.held preciseUnit world.setToken.totalSupply
    (world.setToken.defaultRealUnit token)

/-- What the update of a receive token can lose. -/
def updateLoss (world : World P) : ℕ :=
  Allocation.conversionLoss preciseUnit world.setToken.positionMultiplier.toNat
    world.setToken.totalSupply

/-- Wrappers burn what they are asked to redeem. -/
def BurnsExactly (notional : Notional P) : Prop :=
  ∀ order protocols after redeemed,
    notional.redeem order protocols = .ok (after, redeemed) →
      redeemed.burned = order.fCashAmount

/-! ## One redemption -/

/-- What is read by the loop and does not change. -/
structure Keeps (before after : World P) : Prop where
  bookkept : Bookkept before.setToken → Bookkept after.setToken
  totalSupply : after.setToken.totalSupply = before.setToken.totalSupply
  positionMultiplier : after.setToken.positionMultiplier = before.setToken.positionMultiplier
  modules : ∀ component, after.setToken.getExternalPositionModules component =
    before.setToken.getExternalPositionModules component
  timestamp : after.timestamp = before.timestamp
  decodedIdGasLimit : after.decodedIdGasLimit = before.decodedIdGasLimit

/-- One redemption, with its event. -/
structure Redeems (world : World P) (event : FCashRedeemed) (next : World P) : Prop where
  keeps : Keeps world next
  amount_pos : 0 < event.fCashAmount
  burnt : next.heldBalance event.fCashPosition + event.fCashAmount =
    world.heldBalance event.fCashPosition
  paid : next.heldBalance event.receiveToken =
    world.heldBalance event.receiveToken + event.receivedAmount
  balances : ∀ token, token ≠ event.fCashPosition → token ≠ event.receiveToken →
    next.heldBalance token = world.heldBalance token
  sent : Position.SentUpdate world.setToken next.setToken event.fCashPosition
    world.setToken.totalSupply (world.heldBalance event.fCashPosition)
    (next.heldBalance event.fCashPosition)
  received : trackedNotional world event.receiveToken ≤
      world.heldBalance event.receiveToken →
    Position.StoresUnit next.setToken event.receiveToken
      (Allocation.unitFor preciseUnit world.setToken.totalSupply
        (trackedNotional world event.receiveToken + event.receivedAmount))
  positions : ∀ token, token ≠ event.fCashPosition → token ≠ event.receiveToken →
    next.setToken.componentPositions token = world.setToken.componentPositions token
  logged : next.redeemed = world.redeemed ++ [event]

theorem redeem_eq_ok (hburns : BurnsExactly notional) (hne : fCashPosition ≠ receiveToken)
    (hcall : redeem notional module world fCashPosition receiveToken fCashAmount
      toUnderlying = .ok redeemedWorld) :
    ∃ protocols balances received,
      redeemedWorld = { world with protocols := protocols, balances := balances } ∧
      redeemedWorld.heldBalance fCashPosition + fCashAmount =
        world.heldBalance fCashPosition ∧
      redeemedWorld.heldBalance receiveToken = world.heldBalance receiveToken + received ∧
      ∀ token, token ≠ fCashPosition → token ≠ receiveToken →
        redeemedWorld.heldBalance token = world.heldBalance token := by
  simp only [redeem, bind_eq_ok, require_eq_ok, pure_eq_ok] at hcall
  obtain ⟨_, -, ⟨protocols, burned, received⟩, hredeemed, _, hfunds, rfl⟩ := hcall
  obtain rfl : burned = fCashAmount := hburns _ _ _ _ hredeemed
  refine ⟨protocols, _, received, rfl, ?_, ?_, fun token hfCash hreceive => ?_⟩
  · have hdebited : Ledger.debit (world.balances fCashPosition) world.setTokenAddress burned
        world.setTokenAddress + burned =
          world.balances fCashPosition world.setTokenAddress := by
      rw [Ledger.debit_self]
      exact Nat.sub_add_cancel hfunds
    simpa [World.withChain, Chain.heldBalance, Chain.withLedger, hne] using hdebited
  · simp [World.withChain, Chain.heldBalance, Chain.withLedger, hne.symm, Ledger.credit_self]
  · simp [World.withChain, Chain.heldBalance, Chain.withLedger, hfCash, hreceive]

/-- An edit writes one default unit and may list or unlist its component. -/
theorem frame_of_edit {setToken edited : SetToken} {controller : Controller}
    {sender component : Address} {currentBalance supply previousBalance oldUnit newUnit : ℕ}
    (hcall : Position.calculateAndEditDefaultPosition setToken controller sender component
      currentBalance supply previousBalance = .ok (edited, oldUnit, newUnit)) :
    (Bookkept setToken → Bookkept edited) ∧ edited.totalSupply = setToken.totalSupply ∧
      (∀ other, edited.getExternalPositionModules other =
        setToken.getExternalPositionModules other) ∧
      ∀ other, other ≠ component →
        edited.componentPositions other = setToken.componentPositions other := by
  obtain ⟨-, -, hedit⟩ := Position.calculateAndEditDefaultPosition_eq_ok.mp hcall
  refine ⟨fun hkept => hkept.editDefaultPosition hedit, Position.totalSupply_of_edit hedit, ?_⟩
  obtain ⟨_, _, _, -, -, rfl, -⟩ := Position.editDefaultPosition_eq_ok hedit
  refine ⟨fun other => ?_, fun other hother => ?_⟩
  · by_cases hsame : other = component
    · subst hsame
      simp [SetToken.getExternalPositionModules, SetToken.withPosition]
    · simp [SetToken.getExternalPositionModules, SetToken.withPosition,
        SetToken.withComponents, hsame]
  · simp [SetToken.withPosition, SetToken.withComponents, hother]

theorem redeemFCashPosition_eq_ok (hburns : BurnsExactly notional)
    (hne : fCashPosition ≠ receiveToken) (hamount : fCashAmount ≠ 0)
    (hcall : redeemFCashPosition notional module world fCashPosition receiveToken fCashAmount
      minReceiveAmount toUnderlying = .ok (next, received)) :
    Redeems world ⟨fCashPosition, receiveToken, fCashAmount, received⟩ next := by
  simp only [redeemFCashPosition, if_neg hamount, updateSetTokenPositions, bind_eq_ok,
    require_eq_ok, SafeMath.sub_eq_ok, pure_eq_ok, Prod.mk.injEq] at hcall
  obtain ⟨redeemedWorld, hredeem, ⟨updated, sentAmount, receivedAmount⟩,
    ⟨⟨sent, oldSent, newSent⟩, hsent, ⟨edited, oldReceived, newReceived⟩, hreceived, _, -, _,
      ⟨-, rfl⟩, rfl, rfl, rfl⟩, _, -, rfl, rfl⟩ := hcall
  obtain ⟨protocols, balances, paid, rfl, hburnt, hpaid, hothers⟩ :=
    redeem_eq_ok hburns hne hredeem
  obtain ⟨hsame, hunchanged, hsentStored, hreceivedStored⟩ :=
    Position.storesUnit_of_exchange hne hsent hreceived
  obtain ⟨hsentKept, hsentSupply, hsentModules, hsentOthers⟩ := frame_of_edit hsent
  obtain ⟨hkept, hsupply, hmodules, hreceivedOthers⟩ := frame_of_edit hreceived
  have hgain : ({ world with protocols := protocols, balances := balances } :
      World P).heldBalance receiveToken - world.heldBalance receiveToken = paid := by
    rw [hpaid, Nat.add_sub_cancel_left]
  refine ⟨⟨fun hbefore => hkept (hsentKept hbefore), hsupply.trans hsentSupply, hsame,
    fun component => (hmodules component).trans (hsentModules component), rfl, rfl⟩,
    Nat.pos_of_ne_zero hamount, hburnt, ?_, hothers,
    Position.sentUpdate_of_exchange hsent hsentStored, fun htracked => ?_,
    fun token hfCash hreceive => ?_, rfl⟩
  · change _ = world.heldBalance receiveToken + _
    rw [hgain]
    exact hpaid
  · have hrecomputed := Position.recomputedUnit hreceived (by
      rw [hunchanged]
      exact htracked)
    rw [hrecomputed, hunchanged, hpaid, ← Nat.add_assoc, Nat.add_right_comm,
      Nat.add_sub_cancel] at hreceivedStored
    rw [hgain]
    exact hreceivedStored
  · exact (hreceivedOthers token hreceive).trans (hsentOthers token hfCash)

/-! ## The loop -/

/-- Recognized as wrapped fCash, and past its maturity. -/
def isMatured (notional : Notional P) (world : World P) (component : Address) : Bool :=
  isWrappedFCash notional world.decodedIdGasLimit component &&
    match notional.hasMatured component world.timestamp with
    | .ok matured => matured
    | .error _ => false

/-- fCash settles to its underlying or to its asset token, and neither is fCash that has
matured. -/
def SettlesInOtherTokens (notional : Notional P) (world : World P) : Prop :=
  ∀ component receiveToken, isMatured notional world component = true →
    getReceiveToken notional component world.redeemToUnderlying = .ok receiveToken →
      isMatured notional world receiveToken = false

/-- The notional fCash of a listed position. -/
def totalFCashAmount (world : World P) (position : SetToken.Position) : ℕ :=
  Allocation.held preciseUnit world.setToken.totalSupply position.unit.toNat

/-- What the loop redeems. -/
def isDue (notional : Notional P) (world : World P) (position : SetToken.Position) : Bool :=
  decide (0 < position.unit) && isMatured notional world position.component &&
    decide (0 < totalFCashAmount world position)

/-- One redemption of the loop that starts in a given world. -/
structure Turn (notional : Notional P) (start world : World P) (event : FCashRedeemed)
    (next : World P) : Prop extends Redeems world event next where
  matured : isMatured notional start event.fCashPosition = true
  settles : isMatured notional start event.receiveToken = false

/-- What the loop reads of the world in which it started. -/
structure Alike (start world : World P) : Prop where
  totalSupply : world.setToken.totalSupply = start.setToken.totalSupply
  timestamp : world.timestamp = start.timestamp
  decodedIdGasLimit : world.decodedIdGasLimit = start.decodedIdGasLimit

theorem Alike.isMatured_eq {start : World P} (halike : Alike start world)
    (component : Address) :
    isMatured notional world component = isMatured notional start component := by
  rw [isMatured, isMatured, halike.timestamp, halike.decodedIdGasLimit]

theorem Alike.redeems {start : World P} {event : FCashRedeemed} (halike : Alike start world)
    (hredeems : Redeems world event next) : Alike start next :=
  ⟨hredeems.keeps.totalSupply.trans halike.totalSupply,
    hredeems.keeps.timestamp.trans halike.timestamp,
    hredeems.keeps.decodedIdGasLimit.trans halike.decodedIdGasLimit⟩

theorem redeemIfMatured_eq_ok {start : World P} {position : SetToken.Position}
    (hburns : BurnsExactly notional) (hsettles : SettlesInOtherTokens notional start)
    (halike : Alike start world)
    (hcall : redeemIfMatured notional module start.redeemToUnderlying world position =
      .ok next) :
    (isDue notional start position = false ∧ next = world) ∨
      (isDue notional start position = true ∧ Alike start next ∧
        ∃ event : FCashRedeemed, (event.fCashPosition, event.fCashAmount) =
          (position.component, totalFCashAmount start position) ∧
            Turn notional start world event next) := by
  unfold redeemIfMatured at hcall
  split at hcall
  · rename_i hpositive
    split at hcall
    · rename_i hwrapped
      simp only [bind_eq_ok] at hcall
      obtain ⟨matured, hmatured, hrest⟩ := hcall
      have hstart : isMatured notional start position.component = matured := by
        rw [← halike.isMatured_eq, isMatured, hwrapped, hmatured, Bool.true_and]
      cases matured with
      | false =>
          rw [if_neg Bool.false_ne_true, pure_eq_ok] at hrest
          exact Or.inl ⟨by simp [isDue, hstart], hrest.symm⟩
      | true =>
          simp only [if_true, bind_eq_ok, Position.getDefaultTotalNotional, preciseMul_eq_ok,
            pure_eq_ok] at hrest
          obtain ⟨receiveToken, hreceive, _, ⟨-, rfl⟩, ⟨updated, received⟩, hredeem, rfl⟩ :=
            hrest
          rw [halike.totalSupply] at hredeem
          change redeemFCashPosition notional module world position.component receiveToken
            (totalFCashAmount start position) 0 start.redeemToUnderlying = _ at hredeem
          by_cases hnone : totalFCashAmount start position = 0
          · rw [redeemFCashPosition, if_pos hnone, pure_eq_ok, Prod.mk.injEq] at hredeem
            exact Or.inl ⟨by simp [isDue, hnone], hredeem.1.symm⟩
          · have hother := hsettles position.component receiveToken hstart hreceive
            have hne : position.component ≠ receiveToken := by
              intro hsame
              rw [hsame, hother] at hstart
              exact Bool.false_ne_true hstart
            have hredeems := redeemFCashPosition_eq_ok hburns hne hnone hredeem
            refine Or.inr ⟨?_, halike.redeems hredeems, _, rfl, hredeems, hstart, hother⟩
            simp [isDue, hpositive, hstart, Nat.pos_of_ne_zero hnone]
    · rename_i hwrapped
      rw [pure_eq_ok] at hcall
      have hstart : isMatured notional start position.component = false := by
        rw [← halike.isMatured_eq, isMatured, Bool.eq_false_iff.mpr hwrapped, Bool.false_and]
      exact Or.inl ⟨by simp [isDue, hstart], hcall.symm⟩
  · rename_i hnone
    rw [pure_eq_ok] at hcall
    exact Or.inl ⟨by simp [isDue, hnone], hcall.symm⟩

/-- The loop as a trace, with one event for each due position. -/
theorem redeemAllMatured_traces (hburns : BurnsExactly notional)
    (hsettles : SettlesInOtherTokens notional world)
    (hcall : redeemAllMatured notional module world = .ok next) :
    ∃ events, Trace (Turn notional world) world events next ∧
      events.map (fun event => (event.fCashPosition, event.fCashAmount)) =
        ((world.setToken.components.flatMap world.setToken.entriesOf).filter
          (isDue notional world)).map fun position =>
            (position.component, totalFCashAmount world position) := by
  simp only [redeemAllMatured, bind_eq_ok] at hcall
  obtain ⟨positions, hpositions, hloop⟩ := hcall
  rw [SetToken.getPositions_eq_ok hpositions] at hloop
  exact foldlM_traces (fun _ _ _ halike hturn =>
    redeemIfMatured_eq_ok hburns hsettles halike hturn) ⟨rfl, rfl, rfl⟩ hloop

/-! ## What the events add up to -/

variable {start middle : World P} {event : FCashRedeemed}
variable {events earlier later : List FCashRedeemed} {token : Address}

def burnedOf (events : List FCashRedeemed) (token : Address) : ℕ :=
  Tally.total events fun event =>
    if event.fCashPosition = token then event.fCashAmount else 0

def receivedOf (events : List FCashRedeemed) (token : Address) : ℕ :=
  Tally.total events fun event => if event.receiveToken = token then event.receivedAmount else 0

/-- How often a token was received. -/
def updatesOf (events : List FCashRedeemed) (token : Address) : ℕ :=
  Tally.total events fun event => if event.receiveToken = token then 1 else 0

theorem Keeps.trans (hfirst : Keeps world middle) (hsecond : Keeps middle next) :
    Keeps world next :=
  ⟨fun hbefore => hsecond.bookkept (hfirst.bookkept hbefore),
    hsecond.totalSupply.trans hfirst.totalSupply,
    hsecond.positionMultiplier.trans hfirst.positionMultiplier,
    fun component => (hsecond.modules component).trans (hfirst.modules component),
    hsecond.timestamp.trans hfirst.timestamp,
    hsecond.decodedIdGasLimit.trans hfirst.decodedIdGasLimit⟩

theorem keeps_of_trace (htrace : Trace (Turn notional start) world events next) :
    Keeps world next :=
  htrace.preserves (fun _ _ _ hkeeps hturn => hkeeps.trans hturn.keeps)
    ⟨id, rfl, rfl, fun _ => rfl, rfl, rfl⟩

theorem Turn.tokens_ne (hturn : Turn notional start world event next) :
    event.fCashPosition ≠ event.receiveToken := by
  intro hsame
  have hmatured := hturn.matured
  rw [hsame, hturn.settles] at hmatured
  exact Bool.false_ne_true hmatured

/-- Every balance changes by what was burnt and received of the token. -/
theorem balances_of_trace (htrace : Trace (Turn notional start) world events next)
    (token : Address) :
    next.heldBalance token + burnedOf events token =
      world.heldBalance token + receivedOf events token := by
  induction htrace with
  | nil => rfl
  | @cons world middle next event events hturn _ ih =>
      have hstep : middle.heldBalance token +
          (if event.fCashPosition = token then event.fCashAmount else 0) =
            world.heldBalance token +
              if event.receiveToken = token then event.receivedAmount else 0 := by
        by_cases hfCash : event.fCashPosition = token
        · subst hfCash
          rw [if_pos rfl, if_neg hturn.tokens_ne.symm]
          exact hturn.burnt
        · rw [if_neg hfCash]
          by_cases hreceive : event.receiveToken = token
          · subst hreceive
            rw [if_pos rfl]
            exact hturn.paid
          · rw [if_neg hreceive]
            exact hturn.balances token (Ne.symm hfCash) (Ne.symm hreceive)
      have hburned : burnedOf (event :: events) token =
          (if event.fCashPosition = token then event.fCashAmount else 0) +
            burnedOf events token := rfl
      have hreceived : receivedOf (event :: events) token =
          (if event.receiveToken = token then event.receivedAmount else 0) +
            receivedOf events token := rfl
      omega

theorem positions_of_trace (htrace : Trace (Turn notional start) world events next)
    (hfCash : ∀ event ∈ events, token ≠ event.fCashPosition)
    (hreceive : ∀ event ∈ events, token ≠ event.receiveToken) :
    next.setToken.componentPositions token = world.setToken.componentPositions token := by
  induction htrace with
  | nil => rfl
  | cons hturn _ ih =>
      rw [List.forall_mem_cons] at hfCash hreceive
      exact (ih hfCash.2 hreceive.2).trans (hturn.positions token hfCash.1 hreceive.1)

theorem logged_of_trace (htrace : Trace (Turn notional start) world events next) :
    next.redeemed = world.redeemed ++ events := by
  induction htrace with
  | nil => rw [List.append_nil]
  | cons hturn _ ih => rw [ih, hturn.logged, List.append_assoc, List.singleton_append]

/-! ## Default positions only -/

/-- The position of a receive token is credited with what was received, up to the loss of each
update. -/
structure Credited (world next : World P) (events : List FCashRedeemed) (token : Address) :
    Prop where
  atMost : trackedNotional next token ≤ trackedNotional world token + receivedOf events token
  atLeast : trackedNotional world token + receivedOf events token ≤
    trackedNotional next token + updatesOf events token * updateLoss world

/-- What is held beyond the default position does not shrink, and grows by no more than the
loss of each update. -/
structure KeepsUntracked (world next : World P) (events : List FCashRedeemed)
    (token : Address) : Prop where
  atLeast : world.heldBalance token + trackedNotional next token ≤
    next.heldBalance token + trackedNotional world token
  atMost : next.heldBalance token + trackedNotional world token ≤
    world.heldBalance token + trackedNotional next token +
      updatesOf events token * updateLoss world

theorem Credited.append (hloss : updateLoss middle = updateLoss world)
    (hfirst : Credited world middle earlier token)
    (hsecond : Credited middle next later token) :
    Credited world next (earlier ++ later) token := by
  have hreceived : receivedOf (earlier ++ later) token =
      receivedOf earlier token + receivedOf later token := Tally.total_append _ _
  have hupdates : updatesOf (earlier ++ later) token =
      updatesOf earlier token + updatesOf later token := Tally.total_append _ _
  obtain ⟨hfirstMost, hfirstLeast⟩ := hfirst
  obtain ⟨hsecondMost, hsecondLeast⟩ := hsecond
  rw [hloss] at hsecondLeast
  constructor
  · omega
  · rw [hreceived, hupdates, Nat.add_mul]
    omega

theorem KeepsUntracked.append (hloss : updateLoss middle = updateLoss world)
    (hfirst : KeepsUntracked world middle earlier token)
    (hsecond : KeepsUntracked middle next later token) :
    KeepsUntracked world next (earlier ++ later) token := by
  have hupdates : updatesOf (earlier ++ later) token =
      updatesOf earlier token + updatesOf later token := Tally.total_append _ _
  obtain ⟨hfirstLeast, hfirstMost⟩ := hfirst
  obtain ⟨hsecondLeast, hsecondMost⟩ := hsecond
  rw [hloss] at hsecondMost
  constructor
  · omega
  · rw [hupdates, Nat.add_mul]
    omega

theorem Keeps.updateLoss_eq (hkeeps : Keeps world next) : updateLoss next = updateLoss world := by
  rw [updateLoss, updateLoss, hkeeps.positionMultiplier, hkeeps.totalSupply]

theorem Keeps.trackedNotional_eq (hkeeps : Keeps world next)
    (hposition : next.setToken.componentPositions token =
      world.setToken.componentPositions token) :
    trackedNotional next token = trackedNotional world token := by
  simp only [trackedNotional, SetToken.defaultRealUnit, SetToken.defaultPositionVirtualUnit,
    hkeeps.totalSupply, hkeeps.positionMultiplier, hposition]

theorem trackedNotional_of_none (hnone : world.setToken.defaultPositionVirtualUnit token = 0) :
    trackedNotional world token = 0 := by
  simp [trackedNotional, SetToken.defaultRealUnit, realUnit, hnone, Allocation.held]

/-- All tracked fCash is redeemed: its default position is gone. -/
theorem Turn.emptied (hturn : Turn notional start world event next)
    (hkept : Bookkept world.setToken)
    (hbacked : trackedNotional world event.fCashPosition ≤
      world.heldBalance event.fCashPosition)
    (hall : event.fCashAmount = trackedNotional world event.fCashPosition) :
    next.setToken.defaultPositionVirtualUnit event.fCashPosition = 0 := by
  have hstored := hturn.sent.stores hbacked
  have hburnt := hturn.burnt
  change Position.StoresUnit next.setToken event.fCashPosition (Allocation.unitFor preciseUnit
    world.setToken.totalSupply (trackedNotional world event.fCashPosition +
      next.heldBalance event.fCashPosition - world.heldBalance event.fCashPosition)) at hstored
  have hnone : trackedNotional world event.fCashPosition +
      next.heldBalance event.fCashPosition - world.heldBalance event.fCashPosition = 0 := by
    omega
  rw [hnone, Allocation.unitFor, Nat.zero_mul, Nat.zero_div] at hstored
  have hmultiplier := (hturn.keeps.bookkept hkept).multiplier_pos
  obtain ⟨hvirtual, -, -⟩ := SetToken.convertRealToVirtualUnit_sign hmultiplier hstored
  rw [hvirtual, Nat.cast_zero, zero_mul, Int.zero_ediv]

theorem Turn.credited (hturn : Turn notional start world event next)
    (hkept : Bookkept world.setToken)
    (hbacked : trackedNotional world event.receiveToken ≤
      world.heldBalance event.receiveToken)
    (hsupply : 0 < world.setToken.totalSupply) :
    Credited world next [event] event.receiveToken := by
  have hmultiplier := (hturn.keeps.bookkept hkept).multiplier_pos
  obtain ⟨-, hread, -⟩ := (hturn.received hbacked).reads hmultiplier
  have htracked : trackedNotional next event.receiveToken =
      Allocation.held preciseUnit world.setToken.totalSupply
        (Rounding.thereAndBack preciseUnit world.setToken.positionMultiplier.toNat
          (Allocation.unitFor preciseUnit world.setToken.totalSupply
            (trackedNotional world event.receiveToken + event.receivedAmount))) := by
    rw [trackedNotional, hread, hturn.keeps.totalSupply, hturn.keeps.positionMultiplier]
  have hreceived : receivedOf [event] event.receiveToken = event.receivedAmount := by
    rw [receivedOf, Tally.total_singleton, if_pos rfl]
  have hupdates : updatesOf [event] event.receiveToken = 1 := by
    rw [updatesOf, Tally.total_singleton, if_pos rfl]
  have hfactor : 0 < world.setToken.positionMultiplier.toNat :=
    Int.lt_toNat.mpr hkept.multiplier_pos
  constructor
  · rw [htracked, hreceived]
    exact Allocation.held_thereAndBack_le preciseUnit_pos _ _ _
  · rw [htracked, hreceived, hupdates, Nat.one_mul]
    exact Allocation.le_held_thereAndBack preciseUnit_pos hfactor hsupply _

/-- Each balance covers what is tracked. -/
def Covered (world : World P) : Prop :=
  ∀ token, trackedNotional world token ≤ world.heldBalance token

/-- A token that the turn does not touch. -/
theorem Turn.untouched (hturn : Turn notional start world event next)
    (hfCash : token ≠ event.fCashPosition) (hreceive : token ≠ event.receiveToken) :
    trackedNotional next token = trackedNotional world token ∧
      receivedOf [event] token = 0 ∧ updatesOf [event] token = 0 := by
  refine ⟨hturn.keeps.trackedNotional_eq (hturn.positions token hfCash hreceive), ?_, ?_⟩
  · rw [receivedOf, Tally.total_singleton, if_neg hreceive.symm]
  · rw [updatesOf, Tally.total_singleton, if_neg hreceive.symm]

theorem Turn.creditedToken (hturn : Turn notional start world event next)
    (hkept : Bookkept world.setToken) (hcovered : Covered world)
    (hsupply : 0 < world.setToken.totalSupply) (hfCash : token ≠ event.fCashPosition) :
    Credited world next [event] token := by
  by_cases hreceive : token = event.receiveToken
  · subst hreceive
    exact hturn.credited hkept (hcovered _) hsupply
  · obtain ⟨hsame, hreceived, hupdates⟩ := hturn.untouched hfCash hreceive
    constructor
    · rw [hsame, hreceived, Nat.add_zero]
    · rw [hsame, hreceived, hupdates, Nat.zero_mul]

theorem Turn.keepsUntracked (hturn : Turn notional start world event next)
    (hkept : Bookkept world.setToken) (hcovered : Covered world)
    (hsupply : 0 < world.setToken.totalSupply)
    (hall : event.fCashAmount = trackedNotional world event.fCashPosition) :
    KeepsUntracked world next [event] token := by
  by_cases hfCash : token = event.fCashPosition
  · subst hfCash
    have hnone := trackedNotional_of_none (hturn.emptied hkept (hcovered _) hall)
    have hburnt := hturn.burnt
    constructor
    · omega
    · omega
  · obtain ⟨hatMost, hatLeast⟩ := hturn.creditedToken hkept hcovered hsupply hfCash
    have hheld : next.heldBalance token =
        world.heldBalance token + receivedOf [event] token := by
      by_cases hreceive : token = event.receiveToken
      · subst hreceive
        rw [receivedOf, Tally.total_singleton, if_pos rfl]
        exact hturn.paid
      · rw [(hturn.untouched hfCash hreceive).2.1]
        exact hturn.balances token hfCash hreceive
    constructor
    · omega
    · omega

theorem Turn.covered (hturn : Turn notional start world event next)
    (hkept : Bookkept world.setToken) (hcovered : Covered world)
    (hsupply : 0 < world.setToken.totalSupply)
    (hall : event.fCashAmount = trackedNotional world event.fCashPosition) :
    Covered next := by
  intro token
  have huntracked : KeepsUntracked world next [event] token :=
    hturn.keepsUntracked hkept hcovered hsupply hall
  have hatLeast := huntracked.atLeast
  have hbefore := hcovered token
  omega

theorem supply_pos_of_tracked (htracked : 0 < trackedNotional world token) :
    0 < world.setToken.totalSupply := by
  refine Nat.pos_of_ne_zero fun hnone => htracked.ne' ?_
  rw [trackedNotional, hnone, Allocation.held, Nat.zero_mul, Nat.zero_div]

/-- Redemptions of different default positions, each in full. -/
theorem effects_of_trace (htrace : Trace (Turn notional start) world events next)
    (hkept : Bookkept world.setToken) (hcovered : Covered world)
    (hnodup : (events.map FCashRedeemed.fCashPosition).Nodup)
    (hall : ∀ event ∈ events, event.fCashAmount = trackedNotional world event.fCashPosition) :
    (∀ event ∈ events,
        next.setToken.defaultPositionVirtualUnit event.fCashPosition = 0) ∧
      (∀ token, (∀ event ∈ events, token ≠ event.fCashPosition) →
        Credited world next events token) ∧
      ∀ token, KeepsUntracked world next events token := by
  induction htrace with
  | @nil world =>
      refine ⟨fun event hmem => absurd hmem List.not_mem_nil, fun token _ => ⟨?_, ?_⟩,
        fun token => ⟨le_rfl, ?_⟩⟩
      · exact Nat.le_add_right _ _
      · exact Nat.add_le_add_left (Nat.zero_le _) _
      · exact Nat.le_add_right _ _
  | @cons world middle next event events hturn hrest ih =>
      rw [List.forall_mem_cons] at hall
      rw [List.map_cons, List.nodup_cons] at hnodup
      have hdistinct : ∀ later ∈ events, event.fCashPosition ≠ later.fCashPosition := by
        intro later hmem hsame
        exact hnodup.1 (hsame ▸ List.mem_map_of_mem hmem)
      have hreceived : ∀ later ∈ events, event.fCashPosition ≠ later.receiveToken := by
        intro later hmem hsame
        have hsettles := hrest.each (fun _ _ _ hturn => hturn.settles) later hmem
        rw [← hsame, hturn.matured] at hsettles
        exact Bool.false_ne_true hsettles.symm
      have hlater : ∀ later ∈ events,
          later.fCashAmount = trackedNotional middle later.fCashPosition := by
        intro later hmem
        have hmatured := hrest.each (fun _ _ _ hturn => hturn.matured) later hmem
        have hother : later.fCashPosition ≠ event.receiveToken := by
          intro hsame
          rw [hsame, hturn.settles] at hmatured
          exact Bool.false_ne_true hmatured
        rw [hall.2 later hmem, (hturn.untouched (hdistinct later hmem).symm hother).1]
      have hsupply := supply_pos_of_tracked (hall.1 ▸ hturn.amount_pos)
      have hmiddle := hturn.covered hkept hcovered hsupply hall.1
      obtain ⟨hemptied, hcredited, huntracked⟩ := ih (hturn.keeps.bookkept hkept) hmiddle
        hnodup.2 hlater
      have hloss := hturn.keeps.updateLoss_eq
      refine ⟨List.forall_mem_cons.mpr ⟨?_, hemptied⟩, fun token hother => ?_, fun token => ?_⟩
      · -- later redemptions leave the emptied position alone
        rw [SetToken.defaultPositionVirtualUnit, positions_of_trace hrest hdistinct hreceived]
        exact hturn.emptied hkept (hcovered _) hall.1
      · rw [List.forall_mem_cons] at hother
        exact (hturn.creditedToken hkept hcovered hsupply hother.1).append hloss
          (hcredited token hother.2)
      · exact (hturn.keepsUntracked hkept hcovered hsupply hall.1).append hloss
          (huntracked token)

end SetProtocol.NotionalTradeModule
