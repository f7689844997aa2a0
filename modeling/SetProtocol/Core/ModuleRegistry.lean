import SetProtocol.Core.Chain

/-!
# Registries over the life of a module

Modules keep registries for each SetToken that they serve.  A module is added,
initialized and removed, and may come back later; the SetToken calls it when it
removes it, and the module must leave nothing behind.  `Tenancy` is a module's storage
for one SetToken, next to the chain.  A registry that is consistent, and vacant as long
as the module is not initialized, stays so under all that happens outside of the
module's own functions.
-/

namespace SetProtocol.ModuleRegistry

open Transaction

/-- The storage of a module for one SetToken: worlds `W` with a registry `R` in them. -/
structure Tenancy (W R : Type) where
  chain : W → Chain
  withChain : W → Chain → W
  registry : W → R
  /-- What the SetToken calls when it removes the module. -/
  removeModule : W → Outcome W
  chain_withChain : ∀ world onto, chain (withChain world onto) = onto
  registry_withChain : ∀ world onto,
    onto.setTokenAddress = (chain world).setTokenAddress →
      registry (withChain world onto) = registry world

/-- A transaction outside of the module.  Only the calls of `TenancyCall`, and the
module's own `initialize`, make the module initialized or end that. -/
structure OutsideCall (module : Address) where
  execute : Chain → Outcome Chain
  setTokenAddress_eq : ∀ chain next, execute chain = .ok next →
    next.setTokenAddress = chain.setTokenAddress
  initialized_iff : ∀ chain next, execute chain = .ok next →
    (next.setToken.moduleStates module = .INITIALIZED ↔
      chain.setToken.moduleStates module = .INITIALIZED)

/-- What happens to a module on its SetToken, `initialize` apart. -/
inductive TenancyCall (module : Address)
  | addModule (sender : Address)
  | removePendingModule (sender : Address)
  | removeModule (sender : Address)
  | outside (call : OutsideCall module)

variable {W R : Type}

/-- `removeModule` of the SetToken, with the callback of the module. -/
def leaveSetToken (tenancy : Tenancy W R) (module : Address) (world : W)
    (sender : Address) : Outcome W := do
  (tenancy.chain world).setToken.validateRemoveModule sender module
  let cleared ← tenancy.removeModule world
  let setToken ← (tenancy.chain cleared).setToken.forgetModule module
  pure (tenancy.withChain cleared ((tenancy.chain cleared).withSetToken setToken))

def performTenancy (tenancy : Tenancy W R) (module : Address) :
    TenancyCall module → W → Outcome W
  | .addModule sender, world => do
      let chain := tenancy.chain world
      let setToken ← chain.setToken.addModule chain.controller sender module
      pure (tenancy.withChain world (chain.withSetToken setToken))
  | .removePendingModule sender, world => do
      let chain := tenancy.chain world
      let setToken ← chain.setToken.removePendingModule sender module
      pure (tenancy.withChain world (chain.withSetToken setToken))
  | .removeModule sender, world => leaveSetToken tenancy module world sender
  | .outside call, world => do
      let chain ← call.execute (tenancy.chain world)
      pure (tenancy.withChain world chain)

def IsInitialized (tenancy : Tenancy W R) (module : Address) (world : W) : Prop :=
  (tenancy.chain world).setToken.moduleStates module = .INITIALIZED

/-- The registry is consistent, and vacant unless the module is initialized. -/
structure Kept (tenancy : Tenancy W R) (module : Address) (consistent vacant : R → Prop)
    (world : W) : Prop where
  consistent : consistent (tenancy.registry world)
  vacant : ¬IsInitialized tenancy module world → vacant (tenancy.registry world)

variable {tenancy : Tenancy W R} {module : Address} {consistent vacant : R → Prop}
variable {world next : W}

theorem Kept.of_initialized (hconsistent : consistent (tenancy.registry next))
    (hinitialized : IsInitialized tenancy module next) :
    Kept tenancy module consistent vacant next :=
  ⟨hconsistent, fun hnot => absurd hinitialized hnot⟩

theorem Kept.withChain (hkept : Kept tenancy module consistent vacant world)
    {chain : Chain} (haddress : chain.setTokenAddress = (tenancy.chain world).setTokenAddress)
    (hiff : chain.setToken.moduleStates module = .INITIALIZED ↔
      IsInitialized tenancy module world) :
    Kept tenancy module consistent vacant (tenancy.withChain world chain) := by
  constructor
  · rw [tenancy.registry_withChain _ _ haddress]
    exact hkept.consistent
  · intro hnot
    rw [IsInitialized, tenancy.chain_withChain] at hnot
    rw [tenancy.registry_withChain _ _ haddress]
    exact hkept.vacant (mt hiff.mpr hnot)

/-- The step lemma for all that happens outside of the module's own functions: it is
enough that the callback of a removal empties a consistent registry. -/
theorem kept_of_performTenancy
    (hremove : ∀ world next, consistent (tenancy.registry world) →
      tenancy.removeModule world = .ok next →
        consistent (tenancy.registry next) ∧ vacant (tenancy.registry next))
    {call : TenancyCall module} (hkept : Kept tenancy module consistent vacant world)
    (hcall : performTenancy tenancy module call world = .ok next) :
    Kept tenancy module consistent vacant next := by
  cases call with
  | addModule sender =>
      simp only [performTenancy, SetToken.addModule, bind_eq_ok, pure_eq_ok,
        require_eq_ok] at hcall
      obtain ⟨_, ⟨_, -, _, hnone, _, -, rfl⟩, rfl⟩ := hcall
      refine hkept.withChain rfl ?_
      simp [Chain.withSetToken, SetToken.withModuleState, IsInitialized, hnone]
  | removePendingModule sender =>
      simp only [performTenancy, SetToken.removePendingModule, bind_eq_ok, pure_eq_ok,
        require_eq_ok] at hcall
      obtain ⟨_, ⟨_, -, _, -, _, hpending, rfl⟩, rfl⟩ := hcall
      refine hkept.withChain rfl ?_
      simp [Chain.withSetToken, SetToken.withModuleState, IsInitialized, hpending]
  | removeModule sender =>
      simp only [performTenancy, leaveSetToken, bind_eq_ok, pure_eq_ok] at hcall
      obtain ⟨_, -, cleared, hcleared, setToken, -, rfl⟩ := hcall
      obtain ⟨hconsistent, hvacant⟩ := hremove world cleared hkept.consistent hcleared
      have hregistry : tenancy.registry (tenancy.withChain cleared
          ((tenancy.chain cleared).withSetToken setToken)) = tenancy.registry cleared :=
        tenancy.registry_withChain _ _ rfl
      exact ⟨hregistry ▸ hconsistent, fun _ => hregistry ▸ hvacant⟩
  | outside call =>
      simp only [performTenancy, bind_eq_ok, pure_eq_ok] at hcall
      obtain ⟨chain, hexecute, rfl⟩ := hcall
      exact hkept.withChain (call.setTokenAddress_eq _ _ hexecute)
        (call.initialized_iff _ _ hexecute)

end SetProtocol.ModuleRegistry
