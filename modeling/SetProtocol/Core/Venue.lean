import SetProtocol.Core.Chain
import SetProtocol.Core.ExternalPositions

/-!
# Calls of other protocols

Modules make the SetToken call lending and staking contracts.  These contracts are
code outside of the repository: `P` holds their storage, and each call is a function
on it that also says how many tokens move.  A `Venue` is a chain with that storage
and a record of the calls made for the SetToken.
-/

namespace SetProtocol

open Transaction

inductive ProtocolAction
  | supply
  | withdraw
  | borrow
  | repay
  | stake
  | unstake
  deriving DecidableEq

/-- What a module had the SetToken do. -/
structure ProtocolCall where
  action : ProtocolAction
  module : Address
  /-- The called contract. -/
  target : Address
  token : Address
  quantity : ℕ
  deriving DecidableEq

structure Venue (P : Type) extends Chain where
  protocols : P
  /-- Oldest call first. -/
  protocolCalls : List ProtocolCall

/-- Module and name of an integration. -/
abbrev IntegrationRegistry := Address → String → Address

def getAndValidateAdapter (registry : IntegrationRegistry) (module : Address)
    (name : String) : Outcome Address := do
  let adapter := registry module name
  require (adapter ≠ zeroAddress) "Must be valid adapter"
  pure adapter

namespace Venue

variable {P : Type}

def withChain (venue : Venue P) (chain : Chain) : Venue P := { venue with toChain := chain }

def withCall (venue : Venue P) (protocols : P) (call : ProtocolCall) : Venue P :=
  { venue with
    protocols := protocols
    protocolCalls := venue.protocolCalls ++ [call] }

/-- The SetToken approves the quantity of a call, which pulls no more than that. -/
def invokePaying (venue : Venue P) (call : ProtocolCall)
    (execute : P → Outcome (P × ℕ)) : Outcome (Venue P) := do
  venue.setToken.onlyModuleWhenLockedOnlyLocker venue.controller call.module
  let executed ← execute venue.protocols
  require (executed.2 ≤ call.quantity) "ERC20: transfer amount exceeds allowance"
  let chain ← venue.moveTokens call.token venue.setTokenAddress call.target executed.2
  pure ((venue.withChain chain).withCall executed.1 call)

/-- The SetToken makes a call that pays it. -/
def invokeReceiving (venue : Venue P) (call : ProtocolCall)
    (execute : P → Outcome (P × ℕ)) : Outcome (Venue P) := do
  venue.setToken.onlyModuleWhenLockedOnlyLocker venue.controller call.module
  let executed ← execute venue.protocols
  let chain ← venue.moveTokens call.token call.target venue.setTokenAddress executed.2
  pure ((venue.withChain chain).withCall executed.1 call)

/-- A leaving module tries `unregisterFromIssuanceModule` on every module of the
SetToken, and ignores the ones that revert. -/
def unregisterFromModules (venue : Venue P)
    (unregister : Address → Venue P → Outcome (Venue P)) : Venue P :=
  run unregister venue.setToken.modules venue

/-! ## What the calls move -/

variable {venue next : Venue P} {call : ProtocolCall} {execute : P → Outcome (P × ℕ)}

theorem invokePaying_eq_ok (hcall : venue.invokePaying call execute = .ok next) :
    ∃ protocols paid chain, execute venue.protocols = .ok (protocols, paid) ∧
      paid ≤ call.quantity ∧
      venue.moveTokens call.token venue.setTokenAddress call.target paid = .ok chain ∧
      next = (venue.withChain chain).withCall protocols call := by
  simp only [invokePaying, bind_eq_ok, require_eq_ok, pure_eq_ok] at hcall
  obtain ⟨_, -, ⟨protocols, paid⟩, hexecuted, _, hpaid, chain, hchain, rfl⟩ := hcall
  exact ⟨protocols, paid, chain, hexecuted, hpaid, hchain, rfl⟩

theorem invokeReceiving_eq_ok (hcall : venue.invokeReceiving call execute = .ok next) :
    ∃ protocols received chain, execute venue.protocols = .ok (protocols, received) ∧
      venue.moveTokens call.token call.target venue.setTokenAddress received = .ok chain ∧
      next = (venue.withChain chain).withCall protocols call := by
  simp only [invokeReceiving, bind_eq_ok, pure_eq_ok] at hcall
  obtain ⟨_, -, ⟨protocols, received⟩, hexecuted, chain, hchain, rfl⟩ := hcall
  exact ⟨protocols, received, chain, hexecuted, hchain, rfl⟩

/-- Tokens may have moved, the SetToken's own storage is the same. -/
structure SameSetToken (venue next : Venue P) : Prop where
  setToken : next.setToken = venue.setToken
  setTokenAddress : next.setTokenAddress = venue.setTokenAddress
  timestamp : next.timestamp = venue.timestamp

theorem SameSetToken.refl (venue : Venue P) : SameSetToken venue venue := ⟨rfl, rfl, rfl⟩

theorem SameSetToken.trans {middle : Venue P} (hfirst : SameSetToken venue middle)
    (hsecond : SameSetToken middle next) : SameSetToken venue next :=
  ⟨hsecond.setToken.trans hfirst.setToken,
    hsecond.setTokenAddress.trans hfirst.setTokenAddress,
    hsecond.timestamp.trans hfirst.timestamp⟩

theorem sameSetToken_of_moveTokens {chain : Chain} {token source target : Address}
    {quantity : ℕ} (hcall : venue.moveTokens token source target quantity = .ok chain)
    (protocols : P) (call : ProtocolCall) :
    SameSetToken venue ((venue.withChain chain).withCall protocols call) := by
  obtain ⟨-, rfl⟩ := Chain.moveTokens_eq_ok.mp hcall
  exact ⟨rfl, rfl, rfl⟩

end Venue

namespace Chain

variable {chain next : Chain} {token source target : Address} {quantity : ℕ}

/-- A payment of the SetToken to another account, in its own books. -/
theorem heldBalance_of_payment (htarget : target ≠ chain.setTokenAddress)
    (hcall : chain.moveTokens token chain.setTokenAddress target quantity = .ok next) :
    quantity ≤ chain.heldBalance token ∧
      next.heldBalance token = chain.heldBalance token - quantity ∧
      ∀ other, other ≠ token → next.heldBalance other = chain.heldBalance other := by
  obtain ⟨hfunds, rfl⟩ := moveTokens_eq_ok.mp hcall
  refine ⟨hfunds, ?_, fun other hother => heldBalance_withLedger_of_ne hother⟩
  rw [heldBalance_withLedger_self]
  exact Ledger.move_source htarget.symm

theorem heldBalance_of_receipt (hsource : source ≠ chain.setTokenAddress)
    (hcall : chain.moveTokens token source chain.setTokenAddress quantity = .ok next) :
    next.heldBalance token = chain.heldBalance token + quantity ∧
      ∀ other, other ≠ token → next.heldBalance other = chain.heldBalance other := by
  obtain ⟨-, rfl⟩ := moveTokens_eq_ok.mp hcall
  refine ⟨?_, fun other hother => heldBalance_withLedger_of_ne hother⟩
  rw [heldBalance_withLedger_self]
  exact Ledger.move_target hsource

end Chain

namespace Venue

variable {P : Type} {venue next : Venue P} {call : ProtocolCall}
variable {execute : P → Outcome (P × ℕ)}

theorem heldBalance_of_paying (htarget : call.target ≠ venue.setTokenAddress)
    (hcall : venue.invokePaying call execute = .ok next) :
    ∃ protocols paid, execute venue.protocols = .ok (protocols, paid) ∧
      paid ≤ call.quantity ∧
      next.heldBalance call.token + paid = venue.heldBalance call.token := by
  obtain ⟨protocols, paid, chain, hexecuted, hpaid, hmoved, rfl⟩ := invokePaying_eq_ok hcall
  obtain ⟨hfunds, hlowered, -⟩ := Chain.heldBalance_of_payment htarget hmoved
  refine ⟨protocols, paid, hexecuted, hpaid, ?_⟩
  change chain.heldBalance call.token + paid = _
  omega

/-- A call that pays what it says. -/
theorem heldBalance_of_receiving (hsource : call.target ≠ venue.setTokenAddress)
    (hexact : ∀ protocols after received,
      execute protocols = .ok (after, received) → received = call.quantity)
    (hcall : venue.invokeReceiving call execute = .ok next) :
    next.heldBalance call.token = venue.heldBalance call.token + call.quantity := by
  obtain ⟨protocols, received, chain, hexecuted, hmoved, rfl⟩ := invokeReceiving_eq_ok hcall
  obtain ⟨hraised, -⟩ := Chain.heldBalance_of_receipt hsource hmoved
  rw [← hexact _ _ _ hexecuted]
  exact hraised

end Venue

end SetProtocol
