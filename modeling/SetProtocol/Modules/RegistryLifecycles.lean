import SetProtocol.Core.ModuleRegistry
import SetProtocol.Library.FlaggedList
import SetProtocol.Modules.AirdropModule
import SetProtocol.Modules.ClaimRegistry
import SetProtocol.Modules.DebtIssuanceModule
import SetProtocol.Modules.NavIssuanceModule

/-!
# Registries of four modules

The debt issuance module registers hooks, the issuance at net asset value reserve
assets, the airdrop module tokens and the claim module pools with their adapters.  Over
every run of initializations, additions, removals and departures from the SetToken,
each list agrees with its flags.  No guarded removal then misses its entry, and an
initialization permits what it is given and nothing from before.
-/

namespace SetProtocol

open Transaction ModuleRegistry FlaggedList

/-- A list and its flags. -/
abbrev FlagRegistry := List Address × (Address → Bool)

def FlagRegistry.Consistent (registry : FlagRegistry) : Prop :=
  Agrees registry.1 registry.2

def FlagRegistry.Vacant (registry : FlagRegistry) : Prop := registry.1 = []

/-- Why `AddressArrayUtils` refuses a removal. -/
def addressNotInArray : String := "Address not in array."

variable {module sender : Address}

theorem isInitialized_of_manager {chain : Chain}
    (hvalid : chain.validateOnlyManagerAndValidSet module sender = .ok ()) :
    chain.setToken.moduleStates module = .INITIALIZED := by
  simp only [Chain.validateOnlyManagerAndValidSet, bind_eq_ok, require_eq_ok] at hvalid
  obtain ⟨_, -, -, hinitialized⟩ := hvalid
  exact hinitialized

theorem initializeModule_initialized {setToken next : SetToken}
    (hcall : setToken.initializeModule module = .ok next) :
    next.moduleStates module = .INITIALIZED := by
  simp only [SetToken.initializeModule, bind_eq_ok, pure_eq_ok] at hcall
  obtain ⟨_, -, _, -, rfl⟩ := hcall
  simp [SetToken.withModuleState]

theorem pending_not_initialized {chain : Chain}
    (hvalid : chain.validateOnlyValidAndPendingSet module = .ok ()) :
    ¬chain.setToken.moduleStates module = .INITIALIZED := by
  simp only [Chain.validateOnlyValidAndPendingSet, bind_eq_ok, require_eq_ok] at hvalid
  obtain ⟨_, -, hpending⟩ := hvalid
  rw [hpending]
  decide

/-! ## Hooks of the debt issuance module -/

namespace DebtIssuanceModule

variable {E : Type} {world next : World E}

def tenancy (E : Type) : Tenancy (World E) FlagRegistry where
  chain world := world.toChain
  withChain := World.withChain
  registry world :=
    (world.issuanceSettings.moduleIssuanceHooks, world.issuanceSettings.isModuleHook)
  removeModule := removeModule
  chain_withChain _ _ := rfl
  registry_withChain _ _ _ := rfl

inductive RegistryCall (module : Address)
  | initializeModule (sender : Address) (maxManagerFee managerIssueFee managerRedeemFee : ℕ)
      (feeRecipient managerIssuanceHook : Address)
  | registerToIssuanceModule (sender : Address)
  | unregisterFromIssuanceModule (sender : Address)
  | tenancy (call : TenancyCall module)

def performRegistry (module : Address) : RegistryCall module → World E → Outcome (World E)
  | .initializeModule sender maxManagerFee managerIssueFee managerRedeemFee feeRecipient
      managerIssuanceHook => fun world =>
        initializeModule module world sender maxManagerFee managerIssueFee
          managerRedeemFee feeRecipient managerIssuanceHook
  | .registerToIssuanceModule sender => fun world =>
      registerToIssuanceModule module world sender
  | .unregisterFromIssuanceModule sender => fun world =>
      unregisterFromIssuanceModule module world sender
  | .tenancy call => performTenancy (tenancy E) module call

/-- A SetToken that the module has not served yet. -/
def Unserved (module : Address) (world : World E) : Prop :=
  world.issuanceSettings = noSettings ∧ ¬IsInitialized (tenancy E) module world

/-- The hooks and their flags, what a removal may run into, and what a new
initialization starts with. -/
structure RegistryHolds (module : Address) (world : World E) : Prop where
  agrees : Agrees world.issuanceSettings.moduleIssuanceHooks
    world.issuanceSettings.isModuleHook
  removable : ∀ sender,
    RevertsOnly (· ≠ addressNotInArray) (unregisterFromIssuanceModule module world sender)
  renewed : ∀ sender maxManagerFee managerIssueFee managerRedeemFee feeRecipient
    managerIssuanceHook next,
    initializeModule module world sender maxManagerFee managerIssueFee managerRedeemFee
      feeRecipient managerIssuanceHook = .ok next →
    ∀ hook, next.issuanceSettings.isModuleHook hook = false

abbrev RegistryKept (module : Address) (world : World E) : Prop :=
  Kept (tenancy E) module FlagRegistry.Consistent FlagRegistry.Vacant world

theorem initializeModule_registry {maxManagerFee managerIssueFee managerRedeemFee : ℕ}
    {feeRecipient managerIssuanceHook : Address}
    (hcall : initializeModule module world sender maxManagerFee managerIssueFee
      managerRedeemFee feeRecipient managerIssuanceHook = .ok next) :
    ¬IsInitialized (tenancy E) module world ∧ IsInitialized (tenancy E) module next ∧
      next.issuanceSettings.moduleIssuanceHooks = [] ∧
      next.issuanceSettings.isModuleHook = world.issuanceSettings.isModuleHook := by
  simp only [initializeModule, bind_eq_ok, pure_eq_ok] at hcall
  obtain ⟨_, -, _, hpending, _, -, _, -, setToken, hsetToken, rfl⟩ := hcall
  exact ⟨pending_not_initialized hpending, initializeModule_initialized hsetToken, rfl, rfl⟩

/-- A module that is not initialized has no hooks, flagged ones included. -/
theorem RegistryKept.noHooks (hkept : RegistryKept module world)
    (hnot : ¬IsInitialized (tenancy E) module world) :
    Agrees [] world.issuanceSettings.isModuleHook := by
  have hvacant : world.issuanceSettings.moduleIssuanceHooks = [] := hkept.vacant hnot
  have hagrees : Agrees world.issuanceSettings.moduleIssuanceHooks
      world.issuanceSettings.isModuleHook := hkept.consistent
  rwa [hvacant] at hagrees

theorem registryKept_of_ok {call : RegistryCall module} (hkept : RegistryKept module world)
    (hcall : performRegistry module call world = .ok next) : RegistryKept module next := by
  have hagrees : Agrees world.issuanceSettings.moduleIssuanceHooks
      world.issuanceSettings.isModuleHook := hkept.consistent
  cases call with
  | initializeModule sender maxManagerFee managerIssueFee managerRedeemFee feeRecipient
      managerIssuanceHook =>
      obtain ⟨hnot, hinitialized, hhooks, hflags⟩ := initializeModule_registry hcall
      refine Kept.of_initialized ?_ hinitialized
      change Agrees next.issuanceSettings.moduleIssuanceHooks
        next.issuanceSettings.isModuleHook
      rw [hhooks, hflags]
      exact hkept.noHooks hnot
  | registerToIssuanceModule sender =>
      simp only [performRegistry, registerToIssuanceModule, bind_eq_ok, pure_eq_ok,
        require_eq_ok] at hcall
      obtain ⟨_, -, _, hvalid, _, hfresh, rfl⟩ := hcall
      have hinitialized : IsInitialized (tenancy E) module world :=
        (require_eq_ok.mp hvalid).2
      exact Kept.of_initialized (hagrees.push hfresh) hinitialized
  | unregisterFromIssuanceModule sender =>
      simp only [performRegistry, unregisterFromIssuanceModule, bind_eq_ok, pure_eq_ok] at hcall
      obtain ⟨_, -, _, hvalid, _, -, hooks, hremove, rfl⟩ := hcall
      have hinitialized : IsInitialized (tenancy E) module world :=
        (require_eq_ok.mp hvalid).2
      obtain ⟨-, hperm⟩ := AddressArrayUtils.removeStorage_eq_ok hremove
      exact Kept.of_initialized ((hagrees.erase sender).perm hperm) hinitialized
  | tenancy call =>
      refine kept_of_performTenancy (fun before after hbefore hremove => ?_) hkept hcall
      change removeModule before = .ok after at hremove
      simp only [removeModule, bind_eq_ok, pure_eq_ok, require_eq_ok,
        List.length_eq_zero_iff] at hremove
      obtain ⟨_, hempty, rfl⟩ := hremove
      have hbeforeAgrees : Agrees before.issuanceSettings.moduleIssuanceHooks
          before.issuanceSettings.isModuleHook := hbefore
      rw [hempty] at hbeforeAgrees
      exact ⟨hbeforeAgrees, rfl⟩

theorem RegistryKept.holds (hkept : RegistryKept module world) :
    RegistryHolds module world := by
  refine ⟨hkept.consistent, fun sender => ?_, ?_⟩
  · unfold unregisterFromIssuanceModule Chain.validateOnlyModule
      SetToken.validateOnlyModule Chain.validateOnlyValidAndInitializedSet
    refine RevertsOnly.bind ?_ fun _ _ => ?_
    · refine (revertsOnly_require fun _ => by decide).bind fun _ _ => ?_
      exact revertsOnly_require fun _ => by decide
    refine (revertsOnly_require fun _ => by decide).bind fun _ _ => ?_
    refine (revertsOnly_require fun _ => by decide).bind fun _ hflag => ?_
    refine (AddressArrayUtils.revertsOnly_removeStorage ?_).bind fun _ _ =>
      revertsOnly_pure _
    exact (hkept.consistent.mem_iff sender).mp (require_eq_ok.mp hflag)
  · intro sender maxManagerFee managerIssueFee managerRedeemFee feeRecipient
      managerIssuanceHook next hcall hook
    obtain ⟨hnot, -, -, hflags⟩ := initializeModule_registry hcall
    rw [hflags]
    exact (hkept.noHooks hnot).flag_eq_false hook

/-- The hooks over every run of the module's life on one SetToken. -/
theorem registryHolds_of_run (calls : List (RegistryCall module))
    (hunserved : Unserved module world) :
    RegistryHolds module (run (performRegistry module) calls world) := by
  refine RegistryKept.holds (run_preserves (RegistryKept module)
    (fun call _ state next hstate hcall => registryKept_of_ok hstate hcall) ?_)
  obtain ⟨hsettings, -⟩ := hunserved
  constructor
  · change Agrees world.issuanceSettings.moduleIssuanceHooks
      world.issuanceSettings.isModuleHook
    rw [hsettings]
    exact Agrees.empty
  · intro _
    change world.issuanceSettings.moduleIssuanceHooks = []
    rw [hsettings]
    rfl

end DebtIssuanceModule

/-! ## Reserve assets -/

namespace NavIssuanceModule

variable {E : Type} {world next : World E}

def tenancy (E : Type) : Tenancy (World E) FlagRegistry where
  chain world := world.toChain
  withChain := World.withChain
  registry world := (world.navIssuanceSettings.reserveAssets, world.isReserveAsset)
  removeModule world := pure (removeModule world)
  chain_withChain _ _ := rfl
  registry_withChain _ _ _ := rfl

inductive RegistryCall (module : Address)
  | initializeModule (sender : Address) (settings : NAVIssuanceSettings)
  | addReserveAsset (sender reserveAsset : Address)
  | removeReserveAsset (sender reserveAsset : Address)
  | tenancy (call : TenancyCall module)

def performRegistry (module : Address) : RegistryCall module → World E → Outcome (World E)
  | .initializeModule sender settings => fun world =>
      initializeModule module world sender settings
  | .addReserveAsset sender reserveAsset => fun world =>
      addReserveAsset module world sender reserveAsset
  | .removeReserveAsset sender reserveAsset => fun world =>
      removeReserveAsset module world sender reserveAsset
  | .tenancy call => performTenancy (tenancy E) module call

/-- A SetToken that the module has not served yet. -/
def Unserved (module : Address) (world : World E) : Prop :=
  world.navIssuanceSettings = noSettings ∧ world.isReserveAsset = (fun _ => false) ∧
    ¬IsInitialized (tenancy E) module world

/-- The reserve assets and their flags, what a removal may run into, and what a new
initialization permits. -/
structure RegistryHolds (module : Address) (world : World E) : Prop where
  agrees : Agrees world.navIssuanceSettings.reserveAssets world.isReserveAsset
  removable : ∀ sender reserveAsset,
    RevertsOnly (· ≠ addressNotInArray) (removeReserveAsset module world sender reserveAsset)
  renewed : ∀ sender settings next,
    initializeModule module world sender settings = .ok next →
    ∀ asset, next.isReserveAsset asset = true ↔ asset ∈ settings.reserveAssets

abbrev RegistryKept (module : Address) (world : World E) : Prop :=
  Kept (tenancy E) module FlagRegistry.Consistent FlagRegistry.Vacant world

/-- The loop over the reserve assets refuses to flag one twice. -/
theorem flagReserveAsset_agrees {entries assets : List Address} {flag marked : Address → Bool}
    (hagrees : Agrees entries flag)
    (hfold : assets.foldlM flagReserveAsset flag = .ok marked) :
    Agrees (entries ++ assets) marked := by
  induction assets generalizing entries flag with
  | nil =>
      rw [List.foldlM_nil, pure_eq_ok] at hfold
      subst hfold
      rwa [List.append_nil]
  | cons asset assets ih =>
      simp only [List.foldlM_cons, flagReserveAsset, bind_eq_ok, require_eq_ok, pure_eq_ok,
        exists_const] at hfold
      obtain ⟨_, ⟨hfresh, rfl⟩, hrest⟩ := hfold
      rw [List.append_cons]
      exact ih (hagrees.push (by simp [hfresh])) hrest

theorem initializeModule_registry {settings : NAVIssuanceSettings}
    (hcall : initializeModule module world sender settings = .ok next) :
    ¬IsInitialized (tenancy E) module world ∧ IsInitialized (tenancy E) module next ∧
      next.navIssuanceSettings = settings ∧
      settings.reserveAssets.foldlM flagReserveAsset world.isReserveAsset =
        .ok next.isReserveAsset := by
  simp only [initializeModule, bind_eq_ok, pure_eq_ok] at hcall
  obtain ⟨_, -, _, hpending, _, -, flags, hflags, setToken, hsetToken, rfl⟩ := hcall
  exact ⟨pending_not_initialized hpending, initializeModule_initialized hsetToken, rfl,
    hflags⟩

theorem RegistryKept.noAssets (hkept : RegistryKept module world)
    (hnot : ¬IsInitialized (tenancy E) module world) :
    Agrees [] world.isReserveAsset := by
  have hvacant : world.navIssuanceSettings.reserveAssets = [] := hkept.vacant hnot
  have hagrees : Agrees world.navIssuanceSettings.reserveAssets world.isReserveAsset :=
    hkept.consistent
  rwa [hvacant] at hagrees

theorem RegistryKept.renewed {settings : NAVIssuanceSettings}
    (hkept : RegistryKept module world)
    (hcall : initializeModule module world sender settings = .ok next) :
    Agrees settings.reserveAssets next.isReserveAsset := by
  obtain ⟨hnot, -, -, hflags⟩ := initializeModule_registry hcall
  have hagrees := flagReserveAsset_agrees (hkept.noAssets hnot) hflags
  rwa [List.nil_append] at hagrees

theorem registryKept_of_ok {call : RegistryCall module} (hkept : RegistryKept module world)
    (hcall : performRegistry module call world = .ok next) : RegistryKept module next := by
  have hagrees : Agrees world.navIssuanceSettings.reserveAssets world.isReserveAsset :=
    hkept.consistent
  cases call with
  | initializeModule sender settings =>
      obtain ⟨-, hinitialized, hsettings, -⟩ := initializeModule_registry hcall
      refine Kept.of_initialized ?_ hinitialized
      change Agrees next.navIssuanceSettings.reserveAssets next.isReserveAsset
      rw [hsettings]
      exact hkept.renewed hcall
  | addReserveAsset sender reserveAsset =>
      simp only [performRegistry, addReserveAsset, bind_eq_ok, pure_eq_ok,
        require_eq_ok] at hcall
      obtain ⟨_, hvalid, _, hfresh, rfl⟩ := hcall
      exact Kept.of_initialized (hagrees.push (by simp [hfresh]))
        (isInitialized_of_manager hvalid)
  | removeReserveAsset sender reserveAsset =>
      simp only [performRegistry, removeReserveAsset, bind_eq_ok, pure_eq_ok,
        AddressArrayUtils.remove_eq_ok] at hcall
      obtain ⟨_, hvalid, _, -, _, ⟨-, rfl⟩, rfl⟩ := hcall
      exact Kept.of_initialized (hagrees.erase reserveAsset) (isInitialized_of_manager hvalid)
  | tenancy call =>
      refine kept_of_performTenancy (fun before after hbefore hremove => ?_) hkept hcall
      obtain rfl : removeModule before = after := pure_eq_ok.mp hremove
      have hbeforeAgrees : Agrees before.navIssuanceSettings.reserveAssets
          before.isReserveAsset := hbefore
      exact ⟨hbeforeAgrees.unmark, rfl⟩

theorem RegistryKept.holds (hkept : RegistryKept module world) :
    RegistryHolds module world := by
  refine ⟨hkept.consistent, fun sender reserveAsset => ?_, ?_⟩
  · unfold removeReserveAsset
    refine (Chain.revertsOnly_validateOnlyManagerAndValidSet (by decide)
      (by decide)).bind fun _ _ => ?_
    refine (revertsOnly_require fun _ => by decide).bind fun _ hflag => ?_
    have hmem : reserveAsset ∈ world.navIssuanceSettings.reserveAssets :=
      (hkept.consistent.mem_iff reserveAsset).mp (require_eq_ok.mp hflag)
    rw [AddressArrayUtils.remove_eq_ok.mpr ⟨hmem, rfl⟩]
    exact revertsOnly_pure _
  · intro sender settings next hcall asset
    exact (hkept.renewed hcall).mem_iff asset

/-- The reserve assets over every run of the module's life on one SetToken. -/
theorem registryHolds_of_run (calls : List (RegistryCall module))
    (hunserved : Unserved module world) :
    RegistryHolds module (run (performRegistry module) calls world) := by
  refine RegistryKept.holds (run_preserves (RegistryKept module)
    (fun call _ state next hstate hcall => registryKept_of_ok hstate hcall) ?_)
  obtain ⟨hsettings, hflags, -⟩ := hunserved
  constructor
  · change Agrees world.navIssuanceSettings.reserveAssets world.isReserveAsset
    rw [hsettings, hflags]
    exact Agrees.empty
  · intro _
    change world.navIssuanceSettings.reserveAssets = []
    rw [hsettings]
    rfl

end NavIssuanceModule

/-! ## Airdropped tokens -/

namespace AirdropModule

variable {world next : World}

def tenancy : Tenancy World FlagRegistry where
  chain world := world.toChain
  withChain := World.withChain
  registry world := (world.airdropSettings.airdrops, world.isAirdrop)
  removeModule world := pure (removeModule world)
  chain_withChain _ _ := rfl
  registry_withChain _ _ _ := rfl

inductive RegistryCall (module : Address)
  | initializeModule (sender : Address) (settings : AirdropSettings)
  | addAirdrop (sender airdrop : Address)
  | removeAirdrop (sender airdrop : Address)
  | tenancy (call : TenancyCall module)

def performRegistry (module : Address) : RegistryCall module → World → Outcome World
  | .initializeModule sender settings => fun world =>
      initializeModule module world sender settings
  | .addAirdrop sender airdrop => fun world => addAirdrop module world sender airdrop
  | .removeAirdrop sender airdrop => fun world => removeAirdrop module world sender airdrop
  | .tenancy call => performTenancy AirdropModule.tenancy module call

/-- A SetToken that the module has not served yet. -/
def Unserved (module : Address) (world : World) : Prop :=
  world.airdropSettings = noSettings ∧ world.isAirdrop = (fun _ => false) ∧
    ¬IsInitialized tenancy module world

/-- The airdrops and their flags, what a removal may run into, and what a new
initialization permits. -/
structure RegistryHolds (module : Address) (world : World) : Prop where
  agrees : Agrees world.airdropSettings.airdrops world.isAirdrop
  removable : ∀ sender airdrop,
    RevertsOnly (· ≠ addressNotInArray) (removeAirdrop module world sender airdrop)
  renewed : ∀ sender settings next,
    initializeModule module world sender settings = .ok next →
    ∀ token, next.isAirdrop token = true ↔ token ∈ settings.airdrops

abbrev RegistryKept (module : Address) (world : World) : Prop :=
  Kept tenancy module FlagRegistry.Consistent FlagRegistry.Vacant world

/-- Duplicates are looked for unless the list is empty. -/
theorem initializeModule_registry {settings : AirdropSettings}
    (hcall : initializeModule module world sender settings = .ok next) :
    ¬IsInitialized tenancy module world ∧ IsInitialized tenancy module next ∧
      settings.airdrops.Nodup ∧ next.airdropSettings = settings ∧
      next.isAirdrop = mark world.isAirdrop settings.airdrops := by
  simp only [initializeModule, bind_eq_ok] at hcall
  obtain ⟨_, -, _, hpending, _, -, _, -, hrest⟩ := hcall
  by_cases hlength : 0 < settings.airdrops.length
  · simp only [if_pos hlength, bind_eq_ok, require_eq_ok, pure_eq_ok] at hrest
    obtain ⟨_, hsearch, _, rfl, setToken, hsetToken, rfl⟩ := hrest
    exact ⟨pending_not_initialized hpending, initializeModule_initialized hsetToken,
      (AddressArrayUtils.hasDuplicate_eq_ok_false.mp hsearch).2, rfl, rfl⟩
  · simp only [if_neg hlength, bind_eq_ok, pure_eq_ok] at hrest
    obtain ⟨setToken, hsetToken, rfl⟩ := hrest
    rw [List.length_pos_iff, not_not] at hlength
    refine ⟨pending_not_initialized hpending, initializeModule_initialized hsetToken, ?_, rfl,
      rfl⟩
    rw [hlength]
    exact List.nodup_nil

theorem RegistryKept.renewed {settings : AirdropSettings} (hkept : RegistryKept module world)
    (hcall : initializeModule module world sender settings = .ok next) :
    Agrees settings.airdrops next.isAirdrop := by
  obtain ⟨hnot, -, hnodup, -, hflags⟩ := initializeModule_registry hcall
  have hvacant : world.airdropSettings.airdrops = [] := hkept.vacant hnot
  have hagrees : Agrees world.airdropSettings.airdrops world.isAirdrop := hkept.consistent
  rw [hvacant] at hagrees
  rw [hflags]
  exact hagrees.mark hnodup

theorem registryKept_of_ok {call : RegistryCall module} (hkept : RegistryKept module world)
    (hcall : performRegistry module call world = .ok next) : RegistryKept module next := by
  have hagrees : Agrees world.airdropSettings.airdrops world.isAirdrop := hkept.consistent
  cases call with
  | initializeModule sender settings =>
      obtain ⟨-, hinitialized, -, hsettings, -⟩ := initializeModule_registry hcall
      refine Kept.of_initialized ?_ hinitialized
      change Agrees next.airdropSettings.airdrops next.isAirdrop
      rw [hsettings]
      exact hkept.renewed hcall
  | addAirdrop sender airdrop =>
      simp only [performRegistry, addAirdrop, bind_eq_ok, pure_eq_ok, require_eq_ok] at hcall
      obtain ⟨_, hvalid, _, hfresh, rfl⟩ := hcall
      exact Kept.of_initialized (hagrees.push (by simp [hfresh]))
        (isInitialized_of_manager hvalid)
  | removeAirdrop sender airdrop =>
      simp only [performRegistry, removeAirdrop, bind_eq_ok, pure_eq_ok] at hcall
      obtain ⟨_, hvalid, _, -, airdrops, hremove, rfl⟩ := hcall
      obtain ⟨-, hperm⟩ := AddressArrayUtils.removeStorage_eq_ok hremove
      exact Kept.of_initialized ((hagrees.erase airdrop).perm hperm)
        (isInitialized_of_manager hvalid)
  | tenancy call =>
      refine kept_of_performTenancy (fun before after hbefore hremove => ?_) hkept hcall
      obtain rfl : removeModule before = after := pure_eq_ok.mp hremove
      have hbeforeAgrees : Agrees before.airdropSettings.airdrops before.isAirdrop := hbefore
      exact ⟨hbeforeAgrees.unmark, rfl⟩

theorem RegistryKept.holds (hkept : RegistryKept module world) :
    RegistryHolds module world := by
  refine ⟨hkept.consistent, fun sender airdrop => ?_, ?_⟩
  · unfold removeAirdrop
    refine (Chain.revertsOnly_validateOnlyManagerAndValidSet (by decide)
      (by decide)).bind fun _ _ => ?_
    refine (revertsOnly_require fun _ => by decide).bind fun _ hflag => ?_
    refine (AddressArrayUtils.revertsOnly_removeStorage ?_).bind fun _ _ =>
      revertsOnly_pure _
    exact (hkept.consistent.mem_iff airdrop).mp (require_eq_ok.mp hflag)
  · intro sender settings next hcall token
    exact (hkept.renewed hcall).mem_iff token

/-- The airdrops over every run of the module's life on one SetToken. -/
theorem registryHolds_of_run (calls : List (RegistryCall module))
    (hunserved : Unserved module world) :
    RegistryHolds module (run (performRegistry module) calls world) := by
  refine RegistryKept.holds (run_preserves (RegistryKept module)
    (fun call _ state next hstate hcall => registryKept_of_ok hstate hcall) ?_)
  obtain ⟨hsettings, hflags, -⟩ := hunserved
  constructor
  · change Agrees world.airdropSettings.airdrops world.isAirdrop
    rw [hsettings, hflags]
    exact Agrees.empty
  · intro _
    change world.airdropSettings.airdrops = []
    rw [hsettings]
    rfl

end AirdropModule

/-! ## Reward pools and their adapters -/

namespace ClaimModule

variable {world next : World}

def tenancy : Tenancy World ClaimRegistry where
  chain world := world.toChain
  withChain := World.withChain
  registry world := world.registry
  removeModule world := pure (removeModule world)
  chain_withChain _ _ := rfl
  registry_withChain _ _ _ := rfl

inductive RegistryCall (module : Address)
  | initializeModule (sender : Address) (anyoneClaim : Bool) (rewardPools : List Address)
      (integrationNames : List String)
  | addClaim (sender rewardPool : Address) (integrationName : String)
  | batchAddClaim (sender : Address) (rewardPools : List Address)
      (integrationNames : List String)
  | removeClaim (sender rewardPool : Address) (integrationName : String)
  | batchRemoveClaim (sender : Address) (rewardPools : List Address)
      (integrationNames : List String)
  /-- Governance edits the integration registry. -/
  | editIntegrations (integrations : IntegrationRegistry)
  | tenancy (call : TenancyCall module)

def performRegistry (module : Address) : RegistryCall module → World → Outcome World
  | .initializeModule sender anyoneClaim rewardPools integrationNames => fun world =>
      initializeModule module world sender anyoneClaim rewardPools integrationNames
  | .addClaim sender rewardPool integrationName => fun world =>
      addClaim module world sender rewardPool integrationName
  | .batchAddClaim sender rewardPools integrationNames => fun world =>
      batchAddClaim module world sender rewardPools integrationNames
  | .removeClaim sender rewardPool integrationName => fun world =>
      removeClaim module world sender rewardPool integrationName
  | .batchRemoveClaim sender rewardPools integrationNames => fun world =>
      batchRemoveClaim module world sender rewardPools integrationNames
  | .editIntegrations integrations => fun world =>
      pure { world with integrations := integrations }
  | .tenancy call => performTenancy ClaimModule.tenancy module call

/-- A SetToken that the module has not served yet. -/
def Unserved (module : Address) (world : World) : Prop :=
  world.registry = noRegistry ∧ ¬IsInitialized tenancy module world

/-- Pools, adapters and flags, what a removal may run into, and what a new
initialization permits. -/
structure RegistryHolds (module : Address) (world : World) : Prop where
  consistent : world.registry.Consistent
  removable : ∀ sender rewardPool integrationName,
    RevertsOnly (· ≠ addressNotInArray)
      (removeClaim module world sender rewardPool integrationName)
  batchRemovable : ∀ sender rewardPools integrationNames,
    RevertsOnly (· ≠ addressNotInArray)
      (batchRemoveClaim module world sender rewardPools integrationNames)
  renewed : ∀ sender anyoneClaim rewardPools integrationNames next,
    initializeModule module world sender anyoneClaim rewardPools integrationNames =
      .ok next →
    ∀ rewardPool adapter, next.registry.claimSettingsStatus rewardPool adapter = true ↔
      ∃ entry ∈ rewardPools.zip integrationNames,
        entry.1 = rewardPool ∧ world.integrations module entry.2 = adapter

def ClaimRegistry.Vacant (registry : ClaimRegistry) : Prop := registry.rewardPoolList = []

abbrev RegistryKept (module : Address) (world : World) : Prop :=
  Kept tenancy module ClaimRegistry.Consistent ClaimRegistry.Vacant world

theorem initializeModule_registry {anyoneClaim : Bool} {rewardPools : List Address}
    {integrationNames : List String}
    (hcall : initializeModule module world sender anyoneClaim rewardPools integrationNames =
      .ok next) :
    ¬IsInitialized tenancy module world ∧ IsInitialized tenancy module next ∧
      batchAddClaimEntries module world.integrations world.registry rewardPools
        integrationNames = .ok next.registry := by
  simp only [initializeModule, bind_eq_ok, pure_eq_ok] at hcall
  obtain ⟨_, -, _, hpending, registry, hregistry, setToken, hsetToken, rfl⟩ := hcall
  exact ⟨pending_not_initialized hpending, initializeModule_initialized hsetToken, hregistry⟩

/-- A vacant registry permits no adapter on any pool. -/
theorem ClaimRegistry.Consistent.vacant_status {registry : ClaimRegistry}
    (hconsistent : registry.Consistent) (hvacant : registry.Vacant)
    (rewardPool adapter : Address) :
    registry.claimSettingsStatus rewardPool adapter = false := by
  have hunlisted : rewardPool ∉ registry.rewardPoolList := by
    rw [hvacant]
    exact List.not_mem_nil
  have hagrees := hconsistent.adapters rewardPool
  rw [hconsistent.unlisted hunlisted] at hagrees
  exact hagrees.flag_eq_false adapter

theorem registryKept_of_ok {call : RegistryCall module} (hkept : RegistryKept module world)
    (hcall : performRegistry module call world = .ok next) : RegistryKept module next := by
  have hconsistent : world.registry.Consistent := hkept.consistent
  cases call with
  | initializeModule sender anyoneClaim rewardPools integrationNames =>
      obtain ⟨-, hinitialized, hregistry⟩ := initializeModule_registry hcall
      exact Kept.of_initialized (batchAddClaimEntries_consistent hconsistent hregistry)
        hinitialized
  | addClaim sender rewardPool integrationName =>
      simp only [performRegistry, addClaim, bind_eq_ok, pure_eq_ok] at hcall
      obtain ⟨_, hvalid, registry, hregistry, rfl⟩ := hcall
      exact Kept.of_initialized (addClaimEntry_consistent hconsistent hregistry)
        (isInitialized_of_manager hvalid)
  | batchAddClaim sender rewardPools integrationNames =>
      simp only [performRegistry, batchAddClaim, bind_eq_ok, pure_eq_ok] at hcall
      obtain ⟨_, hvalid, registry, hregistry, rfl⟩ := hcall
      exact Kept.of_initialized (batchAddClaimEntries_consistent hconsistent hregistry)
        (isInitialized_of_manager hvalid)
  | removeClaim sender rewardPool integrationName =>
      simp only [performRegistry, removeClaim, bind_eq_ok, pure_eq_ok] at hcall
      obtain ⟨_, hvalid, registry, hregistry, rfl⟩ := hcall
      exact Kept.of_initialized (removeClaimEntry_consistent hconsistent hregistry)
        (isInitialized_of_manager hvalid)
  | batchRemoveClaim sender rewardPools integrationNames =>
      simp only [performRegistry, batchRemoveClaim, bind_eq_ok, pure_eq_ok] at hcall
      obtain ⟨_, hvalid, _, -, registry, hfold, rfl⟩ := hcall
      have hregistry : registry.Consistent := foldlM_preserves
        (fun entry _ state after hstate hentry => removeClaimEntry_consistent hstate hentry)
        hconsistent hfold
      exact Kept.of_initialized hregistry (isInitialized_of_manager hvalid)
  | editIntegrations integrations =>
      rw [performRegistry, pure_eq_ok] at hcall
      subst hcall
      exact ⟨hkept.consistent, hkept.vacant⟩
  | tenancy call =>
      refine kept_of_performTenancy (fun before after hbefore hremove => ?_) hkept hcall
      obtain rfl : removeModule before = after := pure_eq_ok.mp hremove
      exact removeModule_consistent hbefore

/-- On a consistent registry the removals of arrays find their entries. -/
theorem revertsOnly_removeClaimEntry {integrations : IntegrationRegistry}
    {registry : ClaimRegistry} (hconsistent : registry.Consistent)
    (entry : Address × String) :
    RevertsOnly (· ≠ addressNotInArray)
      (removeClaimEntry module integrations registry entry) := by
  unfold removeClaimEntry getAndValidateAdapter
  refine RevertsOnly.bind ?_ fun adapter _ => ?_
  · refine (revertsOnly_require fun _ => by decide).bind fun _ _ => ?_
    exact revertsOnly_pure _
  by_cases hlisted : registry.claimSettingsStatus entry.1 adapter = true
  · obtain ⟨removed, heq, -⟩ := removeAdapter_consistent hconsistent hlisted
    rw [heq]
    exact revertsOnly_pure removed
  · unfold removeAdapter
    refine (revertsOnly_require fun _ => by decide).bind fun _ hguard => ?_
    exact absurd (require_eq_ok.mp hguard) hlisted

theorem RegistryKept.holds (hkept : RegistryKept module world) :
    RegistryHolds module world := by
  have hconsistent : world.registry.Consistent := hkept.consistent
  refine ⟨hconsistent, fun sender rewardPool integrationName => ?_,
    fun sender rewardPools integrationNames => ?_, ?_⟩
  · unfold removeClaim
    refine (Chain.revertsOnly_validateOnlyManagerAndValidSet (by decide)
      (by decide)).bind fun _ _ => ?_
    exact (revertsOnly_removeClaimEntry hconsistent _).bind fun _ _ => revertsOnly_pure _
  · unfold batchRemoveClaim validateBatchArrays
    refine (Chain.revertsOnly_validateOnlyManagerAndValidSet (by decide)
      (by decide)).bind fun _ _ => ?_
    refine RevertsOnly.bind ?_ fun _ _ => ?_
    · refine (revertsOnly_require fun _ => by decide).bind fun _ _ => ?_
      refine (revertsOnly_require fun _ => by decide).bind fun _ _ => ?_
      exact revertsOnly_pure _
    refine RevertsOnly.bind (fun reason herror => ?_) fun _ _ => revertsOnly_pure _
    obtain ⟨before, entry, after, middle, -, hbefore, hentry⟩ := foldlM_eq_error herror
    have hmiddle : middle.Consistent := foldlM_preserves
      (fun entry _ state after hstate hentry => removeClaimEntry_consistent hstate hentry)
      hconsistent hbefore
    exact revertsOnly_removeClaimEntry hmiddle entry reason hentry
  · intro sender anyoneClaim rewardPools integrationNames next hcall rewardPool adapter
    obtain ⟨hnot, -, hregistry⟩ := initializeModule_registry hcall
    rw [batchAddClaimEntries_status hregistry,
      hconsistent.vacant_status (hkept.vacant hnot)]
    simp

/-- The reward pools over every run of the module's life on one SetToken. -/
theorem registryHolds_of_run (calls : List (RegistryCall module))
    (hunserved : Unserved module world) :
    RegistryHolds module (run (performRegistry module) calls world) := by
  refine RegistryKept.holds (run_preserves (RegistryKept module)
    (fun call _ state next hstate hcall => registryKept_of_ok hstate hcall) ?_)
  obtain ⟨hregistry, -⟩ := hunserved
  constructor
  · change world.registry.Consistent
    rw [hregistry]
    exact ClaimRegistry.Consistent.empty
  · intro _
    change world.registry.rewardPoolList = []
    rw [hregistry]
    rfl

end ClaimModule

/-! ## All four -/

/-- On a SetToken that the modules have not served yet, every run of their lives keeps
their registries consistent. -/
theorem registries_hold (module : Address) :
    (∀ {E : Type} (world : DebtIssuanceModule.World E)
      (calls : List (DebtIssuanceModule.RegistryCall module)),
      DebtIssuanceModule.Unserved module world →
        DebtIssuanceModule.RegistryHolds module
          (run (DebtIssuanceModule.performRegistry module) calls world)) ∧
    (∀ {E : Type} (world : NavIssuanceModule.World E)
      (calls : List (NavIssuanceModule.RegistryCall module)),
      NavIssuanceModule.Unserved module world →
        NavIssuanceModule.RegistryHolds module
          (run (NavIssuanceModule.performRegistry module) calls world)) ∧
    (∀ (world : AirdropModule.World) (calls : List (AirdropModule.RegistryCall module)),
      AirdropModule.Unserved module world →
        AirdropModule.RegistryHolds module
          (run (AirdropModule.performRegistry module) calls world)) ∧
    ∀ (world : ClaimModule.World) (calls : List (ClaimModule.RegistryCall module)),
      ClaimModule.Unserved module world →
        ClaimModule.RegistryHolds module
          (run (ClaimModule.performRegistry module) calls world) :=
  ⟨fun _ calls hunserved => DebtIssuanceModule.registryHolds_of_run calls hunserved,
    fun _ calls hunserved => NavIssuanceModule.registryHolds_of_run calls hunserved,
    fun _ calls hunserved => AirdropModule.registryHolds_of_run calls hunserved,
    fun _ calls hunserved => ClaimModule.registryHolds_of_run calls hunserved⟩

/-- Module 5 is pending and module 6 initialized on a SetToken of manager 7. -/
def pendingChain : Chain where
  controller := { Controller.deploy 1 2 with
    isSet := fun setToken => setToken = 9
    isModule := fun module => module = 5 ∨ module = 6 }
  setTokenAddress := 9
  setToken := { SetToken.deploy [] [] [5] 7 with
    modules := [6]
    moduleStates := fun module =>
      if module = 5 then .PENDING else if module = 6 then .INITIALIZED else .NONE }
  balances _ _ := 0
  timestamp := 0

/-- Token 21 is airdropped until the module leaves, token 22 after it came back. -/
def returningAirdrops : List (AirdropModule.RegistryCall 5) :=
  [.initializeModule 7 ⟨[21], 8, 0, false⟩, .tenancy (.removeModule 7),
    .tenancy (.addModule 7), .initializeModule 7 ⟨[22], 8, 0, false⟩]

theorem registries_hold_returning :
    DebtIssuanceModule.RegistryHolds 5
      (run (DebtIssuanceModule.performRegistry 5)
        [.initializeModule 7 0 0 0 8 0, .registerToIssuanceModule 6,
          .unregisterFromIssuanceModule 6, .tenancy (.removeModule 7)]
        (⟨pendingChain, DebtIssuanceModule.noSettings, ()⟩ :
          DebtIssuanceModule.World Unit)) ∧
    NavIssuanceModule.RegistryHolds 5
      (run (NavIssuanceModule.performRegistry 5)
        [.initializeModule 7 ⟨0, 0, 0, [21], 8, fun _ => 0, 0, 0, 0, 1⟩,
          .removeReserveAsset 7 21]
        (⟨pendingChain, NavIssuanceModule.noSettings, fun _ => false, ()⟩ :
          NavIssuanceModule.World Unit)) ∧
    AirdropModule.RegistryHolds 5
      (run (AirdropModule.performRegistry 5) returningAirdrops
        ⟨pendingChain, AirdropModule.noSettings, fun _ => false⟩) ∧
    ClaimModule.RegistryHolds 5
      (run (ClaimModule.performRegistry 5)
        [.initializeModule 7 false [31, 31] ["CURVE_CLAIM", "CURVE_DIRECT"],
          .removeClaim 7 31 "CURVE_CLAIM", .removeClaim 7 31 "CURVE_DIRECT"]
        ⟨pendingChain, ClaimModule.noRegistry, false,
          fun _ name => if name = "CURVE_CLAIM" then 41 else 42⟩) := by
  obtain ⟨hhooks, hassets, hairdrops, hclaims⟩ := registries_hold 5
  have hpending : ¬pendingChain.setToken.moduleStates 5 = .INITIALIZED := by decide
  exact ⟨hhooks _ _ ⟨rfl, hpending⟩, hassets _ _ ⟨rfl, rfl, hpending⟩,
    hairdrops _ _ ⟨rfl, rfl, hpending⟩, hclaims _ _ ⟨rfl, hpending⟩⟩

end SetProtocol
