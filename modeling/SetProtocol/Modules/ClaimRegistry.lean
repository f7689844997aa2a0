import SetProtocol.Core.ModuleRegistry
import SetProtocol.Library.FlaggedList
import SetProtocol.Modules.ClaimModule

/-!
# The registry of the claim module

Pools and the adapters of each pool are listed and flagged at two levels, and a pool is
listed exactly as long as it has an adapter.  Each addition and removal keeps this, so
does the removal of the whole module, and an initialization starts from nothing.
-/

namespace SetProtocol.ClaimModule

open Transaction ModuleRegistry FlaggedList

/-- Both levels agree with their flags, and the listed pools are those with adapters. -/
structure ClaimRegistry.Consistent (registry : ClaimRegistry) : Prop where
  pools : Agrees registry.rewardPoolList registry.rewardPoolStatus
  adapters : ∀ rewardPool,
    Agrees (registry.claimSettings rewardPool) (registry.claimSettingsStatus rewardPool)
  listed_iff : ∀ rewardPool,
    rewardPool ∈ registry.rewardPoolList ↔ registry.claimSettings rewardPool ≠ []

variable {registry next : ClaimRegistry} {rewardPool adapter module : Address}
variable {integrations : IntegrationRegistry}

theorem ClaimRegistry.Consistent.empty : noRegistry.Consistent :=
  ⟨Agrees.empty, fun _ => Agrees.empty, fun _ => by simp [noRegistry]⟩

/-- A pool that is not listed has no adapter left. -/
theorem ClaimRegistry.Consistent.unlisted (hconsistent : registry.Consistent)
    (hunlisted : rewardPool ∉ registry.rewardPoolList) :
    registry.claimSettings rewardPool = [] := by
  rw [hconsistent.listed_iff] at hunlisted
  exact not_not.mp hunlisted

/-! ## Adding and removing adapters -/

/-- The adapters of one pool change, and the list of pools follows. -/
theorem ClaimRegistry.Consistent.withPool (hconsistent : registry.Consistent)
    {pools adapters : List Address} {poolStatus status : Address → Bool}
    (hpools : Agrees pools poolStatus) (hadapters : Agrees adapters status)
    (hlisted : rewardPool ∈ pools ↔ adapters ≠ [])
    (hothers : ∀ other, other ≠ rewardPool →
      (other ∈ pools ↔ other ∈ registry.rewardPoolList)) :
    ClaimRegistry.Consistent {
      rewardPoolList := pools
      rewardPoolStatus := poolStatus
      claimSettings := Function.update registry.claimSettings rewardPool adapters
      claimSettingsStatus :=
        Function.update registry.claimSettingsStatus rewardPool status } := by
  refine ⟨hpools, fun other => ?_, fun other => ?_⟩
  · by_cases heq : other = rewardPool
    · subst heq
      simpa using hadapters
    · simpa [heq] using hconsistent.adapters other
  · by_cases heq : other = rewardPool
    · subst heq
      simpa using hlisted
    · rw [hothers other heq, hconsistent.listed_iff]
      simp [heq]

theorem addAdapter_consistent (hconsistent : registry.Consistent)
    (hadd : addAdapter registry rewardPool adapter = .ok next) : next.Consistent := by
  simp only [addAdapter, bind_eq_ok, require_eq_ok, exists_const] at hadd
  obtain ⟨hfresh, hadded⟩ := hadd
  have hadapters : Agrees (registry.claimSettings rewardPool ++ [adapter])
      (Function.update (registry.claimSettingsStatus rewardPool) adapter true) :=
    (hconsistent.adapters rewardPool).push (by simp [hfresh])
  by_cases hstatus : registry.rewardPoolStatus rewardPool = true
  · rw [if_pos hstatus, pure_eq_ok] at hadded
    subst hadded
    have hlisted := (hconsistent.pools.mem_iff rewardPool).mp hstatus
    exact hconsistent.withPool hconsistent.pools hadapters (by simp [hlisted])
      fun other _ => Iff.rfl
  · rw [if_neg hstatus, pure_eq_ok] at hadded
    subst hadded
    refine hconsistent.withPool (hconsistent.pools.push hstatus) hadapters (by simp)
      fun other hne => ?_
    simp [hne]

/-- The guard of a removal is enough for both of its array removals. -/
theorem removeAdapter_consistent (hconsistent : registry.Consistent)
    (hlisted : registry.claimSettingsStatus rewardPool adapter = true) :
    ∃ removed, removeAdapter registry rewardPool adapter = .ok removed ∧
      removed.Consistent := by
  have hmem := ((hconsistent.adapters rewardPool).mem_iff adapter).mp hlisted
  obtain ⟨adapters, hadapters, hperm⟩ := AddressArrayUtils.removeStorage_of_mem hmem
  have hagrees : Agrees adapters
      (Function.update (registry.claimSettingsStatus rewardPool) adapter false) :=
    ((hconsistent.adapters rewardPool).erase adapter).perm hperm
  have hpool : rewardPool ∈ registry.rewardPoolList :=
    (hconsistent.listed_iff rewardPool).mpr (List.ne_nil_of_mem hmem)
  simp only [removeAdapter, require, hlisted, if_true, hadapters, ok_bind,
    Function.update_self, List.length_eq_zero_iff]
  by_cases hempty : adapters = []
  · obtain ⟨pools, hpools, hpoolsPerm⟩ := AddressArrayUtils.removeStorage_of_mem hpool
    rw [if_pos hempty, hpools, ok_bind]
    have hpoolsAgree := (hconsistent.pools.erase rewardPool).perm hpoolsPerm
    refine ⟨_, rfl, hconsistent.withPool hpoolsAgree hagrees ?_ fun other hne => ?_⟩
    · simp [hempty, ← hpoolsAgree.mem_iff]
    · rw [← hpoolsAgree.mem_iff, ← hconsistent.pools.mem_iff]
      simp [hne]
  · rw [if_neg hempty]
    exact ⟨_, rfl, hconsistent.withPool hconsistent.pools hagrees (by simp [hpool, hempty])
      fun other _ => Iff.rfl⟩

theorem addClaimEntry_consistent {entry : Address × String}
    (hconsistent : registry.Consistent)
    (hadd : addClaimEntry module integrations registry entry = .ok next) :
    next.Consistent := by
  simp only [addClaimEntry, bind_eq_ok] at hadd
  obtain ⟨adapter, -, hadded⟩ := hadd
  exact addAdapter_consistent hconsistent hadded

theorem removeClaimEntry_consistent {entry : Address × String}
    (hconsistent : registry.Consistent)
    (hremove : removeClaimEntry module integrations registry entry = .ok next) :
    next.Consistent := by
  simp only [removeClaimEntry, bind_eq_ok] at hremove
  obtain ⟨adapter, -, hremoved⟩ := hremove
  have hlisted : registry.claimSettingsStatus entry.1 adapter = true := by
    simp only [removeAdapter, bind_eq_ok, require_eq_ok, exists_const] at hremoved
    exact hremoved.1
  obtain ⟨removed, heq, hkept⟩ := removeAdapter_consistent hconsistent hlisted
  rw [heq, Except.ok.injEq] at hremoved
  exact hremoved ▸ hkept

theorem batchAddClaimEntries_consistent {rewardPools : List Address}
    {integrationNames : List String} (hconsistent : registry.Consistent)
    (hadd : batchAddClaimEntries module integrations registry rewardPools
      integrationNames = .ok next) : next.Consistent := by
  simp only [batchAddClaimEntries, bind_eq_ok] at hadd
  obtain ⟨_, -, hfold⟩ := hadd
  exact foldlM_preserves
    (fun entry _ state after hstate hentry => addClaimEntry_consistent hstate hentry)
    hconsistent hfold

/-! ## What a removal leaves, and what an initialization permits -/

theorem clearPool_agrees
    (hagrees : ∀ other,
      Agrees (registry.claimSettings other) (registry.claimSettingsStatus other))
    (other : Address) :
    Agrees ((clearPool registry rewardPool).claimSettings other)
      ((clearPool registry rewardPool).claimSettingsStatus other) := by
  by_cases heq : other = rewardPool
  · subst heq
    simpa [clearPool, unmark] using (hagrees other).unmark
  · simpa [clearPool, heq] using hagrees other

/-- The first loop of a removal clears the pools it visits, and no list of pools. -/
theorem foldl_clearPool (pools : List Address)
    (hagrees : ∀ other,
      Agrees (registry.claimSettings other) (registry.claimSettingsStatus other)) :
    (∀ other, Agrees ((pools.foldl clearPool registry).claimSettings other)
      ((pools.foldl clearPool registry).claimSettingsStatus other)) ∧
    (∀ other, (pools.foldl clearPool registry).claimSettings other =
      if other ∈ pools then [] else registry.claimSettings other) ∧
    (pools.foldl clearPool registry).rewardPoolList = registry.rewardPoolList ∧
    (pools.foldl clearPool registry).rewardPoolStatus = registry.rewardPoolStatus := by
  induction pools generalizing registry with
  | nil => simpa using hagrees
  | cons pool pools ih =>
      obtain ⟨hcleared, hsettings, hlist, hstatus⟩ := ih (clearPool_agrees hagrees)
      refine ⟨hcleared, fun other => ?_, hlist, hstatus⟩
      rw [List.foldl_cons, hsettings other]
      by_cases hmem : other ∈ pools
      · simp [hmem]
      · by_cases heq : other = pool
        · simp [clearPool, heq]
        · simp [clearPool, hmem, heq]

/-- A removal leaves nothing of a consistent registry. -/
theorem removeModule_consistent {world : World}
    (hconsistent : world.registry.Consistent) :
    (removeModule world).registry.Consistent ∧
      (removeModule world).registry.rewardPoolList = [] := by
  obtain ⟨hagrees, hsettings, hlist, hstatus⟩ :=
    foldl_clearPool world.registry.rewardPoolList hconsistent.adapters
  refine ⟨⟨?_, hagrees, fun other => ?_⟩, rfl⟩
  · have hpools := hconsistent.pools
    rw [← hlist, ← hstatus] at hpools
    exact hpools.unmark
  · by_cases hmem : other ∈ world.registry.rewardPoolList
    · simp [removeModule, hsettings, hmem]
    · simp [removeModule, hsettings, hmem, hconsistent.unlisted hmem]

theorem addClaimEntry_status {entry : Address × String}
    (hadd : addClaimEntry module integrations registry entry = .ok next) :
    next.claimSettingsStatus rewardPool adapter = true ↔
      registry.claimSettingsStatus rewardPool adapter = true ∨
        entry.1 = rewardPool ∧ integrations module entry.2 = adapter := by
  simp only [addClaimEntry, addAdapter, getAndValidateAdapter, bind_eq_ok, require_eq_ok,
    exists_const, pure_eq_ok] at hadd
  obtain ⟨_, ⟨-, rfl⟩, -, hadded⟩ := hadd
  have hstatus : next.claimSettingsStatus =
      Function.update registry.claimSettingsStatus entry.1
        (Function.update (registry.claimSettingsStatus entry.1)
          (integrations module entry.2) true) := by
    split at hadded <;> exact (congrArg ClaimRegistry.claimSettingsStatus
      (pure_eq_ok.mp hadded)).symm
  rw [hstatus]
  by_cases hpool : rewardPool = entry.1
  · subst hpool
    by_cases hadapter : adapter = integrations module entry.2
    · simp [hadapter]
    · simp [hadapter, Ne.symm hadapter]
  · simp [hpool, Ne.symm hpool]

/-- A batch permits its own pairs, and what was permitted before. -/
theorem batchAddClaimEntries_status {rewardPools : List Address}
    {integrationNames : List String}
    (hadd : batchAddClaimEntries module integrations registry rewardPools
      integrationNames = .ok next) :
    next.claimSettingsStatus rewardPool adapter = true ↔
      registry.claimSettingsStatus rewardPool adapter = true ∨
        ∃ entry ∈ rewardPools.zip integrationNames,
          entry.1 = rewardPool ∧ integrations module entry.2 = adapter := by
  simp only [batchAddClaimEntries, bind_eq_ok] at hadd
  obtain ⟨_, -, hfold⟩ := hadd
  exact foldlM_collects
    (fun registry => registry.claimSettingsStatus rewardPool adapter = true)
    (fun entry => entry.1 = rewardPool ∧ integrations module entry.2 = adapter)
    (fun entry _ state after hentry => addClaimEntry_status hentry) hfold

end SetProtocol.ClaimModule
