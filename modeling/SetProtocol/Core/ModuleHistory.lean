import SetProtocol.Core.Chain
import SetProtocol.Core.SetTokenCreator

/-!
# Modules and the lock over histories

A module goes from NONE over PENDING to INITIALIZED and back, and an initialized
module may lock the SetToken.  The list of modules follows the module states, and
while the SetToken is locked all privileged functions belong to the locker, with
modules and manager frozen.
-/

namespace SetProtocol.ModuleHistory

open Transaction Index

/-- What the life cycle of modules reads and writes. -/
structure SameLifecycle (setToken next : SetToken) : Prop where
  manager : next.manager = setToken.manager
  locker : next.locker = setToken.locker
  modules : next.modules = setToken.modules
  moduleStates : next.moduleStates = setToken.moduleStates
  isLocked : next.isLocked = setToken.isLocked

theorem SameLifecycle.refl (setToken : SetToken) : SameLifecycle setToken setToken :=
  ⟨rfl, rfl, rfl, rfl, rfl⟩

/-- A call of another contract, which leaves the life cycle alone. -/
structure ForeignCall where
  execute : Chain → Outcome Chain
  sameLifecycle : ∀ chain next, execute chain = .ok next →
    SameLifecycle chain.setToken next.setToken

/-- The privileged functions of a SetToken, lock and unlock apart. -/
inductive PrivilegedOperation
  | invoke (functionCall : ForeignCall)
  | addComponent (component : Address)
  | removeComponent (component : Address)
  | editDefaultPositionUnit (component : Address) (realUnit : ℤ)
  | addExternalPositionModule (component positionModule : Address)
  | removeExternalPositionModule (component positionModule : Address)
  | editExternalPositionUnit (component positionModule : Address) (realUnit : ℤ)
  | editExternalPositionData (component positionModule : Address) (data : Bytes)
  | editPositionMultiplier (newMultiplier : ℤ)
  | mint (account : Address) (quantity : ℕ)
  | burn (account : Address) (quantity : ℕ)

/-- `invoke` of the SetToken. -/
def invoke (chain : Chain) (sender : Address) (functionCall : ForeignCall) :
    Outcome Chain := do
  chain.setToken.onlyModuleWhenLockedOnlyLocker chain.controller sender
  functionCall.execute chain

/-- A function of the SetToken that only writes positions. -/
def edit (chain : Chain) (call : SetToken → Controller → Outcome SetToken) :
    Outcome Chain := do
  let edited ← call chain.setToken chain.controller
  pure (chain.withSetToken edited)

def performPrivileged (chain : Chain) (sender : Address) :
    PrivilegedOperation → Outcome Chain
  | .invoke functionCall => invoke chain sender functionCall
  | .addComponent component => edit chain fun setToken controller =>
      setToken.addComponent controller sender component
  | .removeComponent component => edit chain fun setToken controller =>
      setToken.removeComponent controller sender component
  | .editDefaultPositionUnit component realUnit => edit chain fun setToken controller =>
      setToken.editDefaultPositionUnit controller sender component realUnit
  | .addExternalPositionModule component positionModule =>
      edit chain fun setToken controller =>
        setToken.addExternalPositionModule controller sender component positionModule
  | .removeExternalPositionModule component positionModule =>
      edit chain fun setToken controller =>
        setToken.removeExternalPositionModule controller sender component positionModule
  | .editExternalPositionUnit component positionModule realUnit =>
      edit chain fun setToken controller =>
        setToken.editExternalPositionUnit controller sender component positionModule realUnit
  | .editExternalPositionData component positionModule data =>
      edit chain fun setToken controller =>
        setToken.editExternalPositionData controller sender component positionModule data
  | .editPositionMultiplier newMultiplier => edit chain fun setToken controller =>
      setToken.editPositionMultiplier controller sender newMultiplier
  | .mint account quantity => chain.mint sender account quantity
  | .burn account quantity => chain.burn sender account quantity

/-- `removeModule`, with the callback of the module between checks and effects. -/
def removeModule (chain : Chain) (sender module : Address) (callback : ForeignCall) :
    Outcome Chain := do
  chain.setToken.validateRemoveModule sender module
  let called ← callback.execute chain
  let setToken ← called.setToken.forgetModule module
  pure (called.withSetToken setToken)

/-- A call of the SetToken, or of the owner of the Controller. -/
inductive ModuleCall
  | privileged (sender : Address) (operation : PrivilegedOperation)
  | lock (sender : Address)
  | unlock (sender : Address)
  | addModule (sender module : Address)
  | removePendingModule (sender module : Address)
  | initializeModule (sender : Address)
  | removeModule (sender module : Address) (callback : ForeignCall)
  | setManager (sender manager : Address)
  | enableModule (sender module : Address)
  | disableModule (sender module : Address)

def ModuleCall.sender : ModuleCall → Address
  | .privileged sender _ | .lock sender | .unlock sender | .addModule sender _
  | .removePendingModule sender _ | .initializeModule sender | .removeModule sender _ _
  | .setManager sender _ | .enableModule sender _ | .disableModule sender _ => sender

def perform : ModuleCall → Chain → Outcome Chain
  | .privileged sender operation => fun chain => performPrivileged chain sender operation
  | .lock sender => fun chain => edit chain fun setToken controller =>
      setToken.lock controller sender
  | .unlock sender => fun chain => edit chain fun setToken controller =>
      setToken.unlock controller sender
  | .addModule sender module => fun chain => edit chain fun setToken controller =>
      setToken.addModule controller sender module
  | .removePendingModule sender module => fun chain => edit chain fun setToken _ =>
      setToken.removePendingModule sender module
  | .initializeModule sender => fun chain => edit chain fun setToken _ =>
      setToken.initializeModule sender
  | .removeModule sender module callback => fun chain =>
      removeModule chain sender module callback
  | .setManager sender manager => fun chain => edit chain fun setToken _ =>
      setToken.setManager sender manager
  | .enableModule sender module => fun chain => do
      let controller ← chain.controller.addModule sender module
      pure { chain with controller := controller }
  | .disableModule sender module => fun chain => do
      let controller ← chain.controller.removeModule sender module
      pure { chain with controller := controller }

/-! ## What a call does to the life cycle -/

variable {chain next : Chain} {sender module : Address}

theorem edit_eq_ok {call : SetToken → Controller → Outcome SetToken} :
    edit chain call = .ok next ↔ ∃ edited,
      call chain.setToken chain.controller = .ok edited ∧
        chain.withSetToken edited = next := by
  simp only [edit, bind_eq_ok, pure_eq_ok]

/-- A privileged function passes its guard and leaves the life cycle alone. -/
theorem performPrivileged_eq_ok {operation : PrivilegedOperation}
    (hcall : performPrivileged chain sender operation = .ok next) :
    chain.setToken.onlyModuleWhenLockedOnlyLocker chain.controller sender = .ok () ∧
      SameLifecycle chain.setToken next.setToken := by
  cases operation with
  | invoke functionCall =>
      simp only [performPrivileged, invoke, bind_eq_ok] at hcall
      obtain ⟨_, hguard, hexecute⟩ := hcall
      exact ⟨hguard, functionCall.sameLifecycle chain next hexecute⟩
  | addComponent component =>
      simp only [performPrivileged, edit_eq_ok] at hcall
      obtain ⟨edited, hedited, rfl⟩ := hcall
      obtain ⟨hguard, -, rfl⟩ := SetToken.addComponent_eq_ok.mp hedited
      exact ⟨hguard, rfl, rfl, rfl, rfl, rfl⟩
  | removeComponent component =>
      simp only [performPrivileged, edit_eq_ok] at hcall
      obtain ⟨edited, hedited, rfl⟩ := hcall
      obtain ⟨hguard, -, _, -, rfl⟩ := SetToken.removeComponent_eq_ok hedited
      exact ⟨hguard, rfl, rfl, rfl, rfl, rfl⟩
  | editDefaultPositionUnit component realUnit =>
      simp only [performPrivileged, edit_eq_ok] at hcall
      obtain ⟨edited, hedited, rfl⟩ := hcall
      obtain ⟨hguard, _, -, rfl⟩ := SetToken.editDefaultPositionUnit_eq_ok.mp hedited
      exact ⟨hguard, rfl, rfl, rfl, rfl, rfl⟩
  | addExternalPositionModule component positionModule =>
      simp only [performPrivileged, edit_eq_ok] at hcall
      obtain ⟨edited, hedited, rfl⟩ := hcall
      obtain ⟨hguard, -, rfl⟩ := SetToken.addExternalPositionModule_eq_ok.mp hedited
      exact ⟨hguard, rfl, rfl, rfl, rfl, rfl⟩
  | removeExternalPositionModule component positionModule =>
      simp only [performPrivileged, edit_eq_ok] at hcall
      obtain ⟨edited, hedited, rfl⟩ := hcall
      obtain ⟨hguard, -, _, -, rfl⟩ := SetToken.removeExternalPositionModule_eq_ok hedited
      exact ⟨hguard, rfl, rfl, rfl, rfl, rfl⟩
  | editExternalPositionUnit component positionModule realUnit =>
      simp only [performPrivileged, edit_eq_ok] at hcall
      obtain ⟨edited, hedited, rfl⟩ := hcall
      obtain ⟨hguard, _, -, rfl⟩ := SetToken.editExternalPositionUnit_eq_ok.mp hedited
      exact ⟨hguard, rfl, rfl, rfl, rfl, rfl⟩
  | editExternalPositionData component positionModule data =>
      simp only [performPrivileged, edit_eq_ok] at hcall
      obtain ⟨edited, hedited, rfl⟩ := hcall
      obtain ⟨hguard, rfl⟩ := SetToken.editExternalPositionData_eq_ok.mp hedited
      exact ⟨hguard, rfl, rfl, rfl, rfl, rfl⟩
  | editPositionMultiplier newMultiplier =>
      simp only [performPrivileged, edit_eq_ok] at hcall
      obtain ⟨edited, hedited, rfl⟩ := hcall
      obtain ⟨hguard, -, rfl⟩ := SetToken.editPositionMultiplier_eq_ok.mp hedited
      exact ⟨hguard, rfl, rfl, rfl, rfl, rfl⟩
  | mint account quantity =>
      obtain ⟨hguard, -, rfl⟩ := Chain.mint_eq_ok hcall
      exact ⟨hguard, rfl, rfl, rfl, rfl, rfl⟩
  | burn account quantity =>
      obtain ⟨hguard, -, -, rfl⟩ := Chain.burn_eq_ok hcall
      exact ⟨hguard, rfl, rfl, rfl, rfl, rfl⟩

/-- The guard lets an initialized module pass; of a locked SetToken only the locker. -/
theorem guard_eq_ok {setToken : SetToken} {controller : Controller}
    (hguard : setToken.onlyModuleWhenLockedOnlyLocker controller sender = .ok ()) :
    setToken.moduleStates sender = .INITIALIZED ∧
      (setToken.isLocked = true → sender = setToken.locker) := by
  simp only [SetToken.onlyModuleWhenLockedOnlyLocker, SetToken.validateOnlyModule,
    SetToken.validateWhenLockedOnlyLocker, bind_eq_ok, require_eq_ok] at hguard
  obtain ⟨_, ⟨_, hstate, -⟩, hlocker⟩ := hguard
  refine ⟨hstate, fun hlocked => ?_⟩
  rw [if_pos hlocked, require_eq_ok] at hlocker
  exact hlocker

/-! ## The invariant -/

/-- The list of modules follows the module states, and the lock has an initialized
holder. -/
structure WellRun (setToken : SetToken) : Prop where
  modules : Indexes setToken.modules
    (fun module => setToken.moduleStates module = .INITIALIZED)
  locked_iff : setToken.isLocked = true ↔ setToken.locker ≠ zeroAddress
  locker : setToken.isLocked = true →
    setToken.moduleStates setToken.locker = .INITIALIZED

variable {setToken edited : SetToken} {controller : Controller}

theorem WellRun.of_sameLifecycle (hrun : WellRun setToken)
    (hsame : SameLifecycle setToken edited) : WellRun edited := by
  obtain ⟨-, hlocker, hmodules, hstates, hlocked⟩ := hsame
  refine ⟨?_, ?_, ?_⟩
  · rw [hmodules, hstates]
    exact hrun.modules
  · rw [hlocked, hlocker]
    exact hrun.locked_iff
  · rw [hlocked, hlocker, hstates]
    exact hrun.locker

/-- Changing the state of a module that is not initialized to another such state. -/
theorem WellRun.withModuleState (hrun : WellRun setToken) {state : ModuleState}
    (hbefore : setToken.moduleStates module ≠ .INITIALIZED) (hafter : state ≠ .INITIALIZED) :
    WellRun (setToken.withModuleState module state) := by
  refine ⟨hrun.modules.congr fun other => ?_, hrun.locked_iff, fun hlocked => ?_⟩
  · by_cases heq : other = module
    · simp [SetToken.withModuleState, heq, hbefore, hafter]
    · simp [SetToken.withModuleState, heq]
  · have hlocker := hrun.locker hlocked
    have hne : setToken.locker ≠ module := fun heq => hbefore (heq ▸ hlocker)
    simpa [SetToken.withModuleState, hne] using hlocker

theorem WellRun.initializeModule (hrun : WellRun setToken)
    (hcall : setToken.initializeModule sender = .ok edited) : WellRun edited := by
  simp only [SetToken.initializeModule, bind_eq_ok, require_eq_ok, pure_eq_ok] at hcall
  obtain ⟨-, hunlocked, -, hpending, rfl⟩ := hcall
  refine ⟨hrun.modules.push (by rw [hpending]; decide) fun other => ?_, hrun.locked_iff,
    fun hlocked => ?_⟩
  · by_cases heq : other = sender
    · simp [SetToken.withModuleState, heq]
    · simp [SetToken.withModuleState, heq]
  · rw [SetToken.withModuleState, hunlocked] at hlocked
    cases hlocked

theorem WellRun.forgetModule (hrun : WellRun setToken) (hunlocked : setToken.isLocked = false)
    (hcall : setToken.forgetModule module = .ok edited) : WellRun edited := by
  simp only [SetToken.forgetModule, bind_eq_ok, pure_eq_ok] at hcall
  obtain ⟨modules, hremove, rfl⟩ := hcall
  obtain ⟨-, hperm⟩ := AddressArrayUtils.removeStorage_eq_ok hremove
  refine ⟨hrun.modules.remove hperm fun other => ?_, hrun.locked_iff, fun hlocked => ?_⟩
  · by_cases heq : other = module
    · simp [SetToken.withModuleState, heq]
    · simp [SetToken.withModuleState, heq]
  · rw [SetToken.withModuleState, hunlocked] at hlocked
    cases hlocked

theorem WellRun.lock (hrun : WellRun setToken) (hsender : sender ≠ zeroAddress)
    (hcall : setToken.lock controller sender = .ok edited) : WellRun edited := by
  simp only [SetToken.lock, SetToken.validateOnlyModule, bind_eq_ok, require_eq_ok,
    pure_eq_ok] at hcall
  obtain ⟨-, ⟨-, hstate, -⟩, -, -, rfl⟩ := hcall
  exact ⟨hrun.modules, by simp [hsender], fun _ => hstate⟩

theorem WellRun.unlock (hrun : WellRun setToken)
    (hcall : setToken.unlock controller sender = .ok edited) : WellRun edited := by
  simp only [SetToken.unlock, bind_eq_ok, pure_eq_ok] at hcall
  obtain ⟨-, -, -, -, -, -, rfl⟩ := hcall
  exact ⟨hrun.modules, by simp, fun hlocked => by cases hlocked⟩

theorem perform_preserves {call : ModuleCall} (hsender : call.sender ≠ zeroAddress)
    (hrun : WellRun chain.setToken) (hcall : perform call chain = .ok next) :
    WellRun next.setToken := by
  cases call with
  | privileged sender operation =>
      exact hrun.of_sameLifecycle (performPrivileged_eq_ok hcall).2
  | lock sender =>
      simp only [perform, edit_eq_ok] at hcall
      obtain ⟨edited, hedited, rfl⟩ := hcall
      exact hrun.lock hsender hedited
  | unlock sender =>
      simp only [perform, edit_eq_ok] at hcall
      obtain ⟨edited, hedited, rfl⟩ := hcall
      exact hrun.unlock hedited
  | addModule sender module =>
      simp only [perform, edit_eq_ok] at hcall
      obtain ⟨edited, hedited, rfl⟩ := hcall
      simp only [SetToken.addModule, bind_eq_ok, require_eq_ok, pure_eq_ok] at hedited
      obtain ⟨-, -, -, hnone, -, -, rfl⟩ := hedited
      exact hrun.withModuleState (by rw [hnone]; decide) (by decide)
  | removePendingModule sender module =>
      simp only [perform, edit_eq_ok] at hcall
      obtain ⟨edited, hedited, rfl⟩ := hcall
      simp only [SetToken.removePendingModule, bind_eq_ok, require_eq_ok, pure_eq_ok] at hedited
      obtain ⟨-, -, -, -, -, hpending, rfl⟩ := hedited
      exact hrun.withModuleState (by rw [hpending]; decide) (by decide)
  | initializeModule sender =>
      simp only [perform, edit_eq_ok] at hcall
      obtain ⟨edited, hedited, rfl⟩ := hcall
      exact hrun.initializeModule hedited
  | removeModule sender module callback =>
      simp only [perform, removeModule, SetToken.validateRemoveModule, bind_eq_ok,
        require_eq_ok, pure_eq_ok] at hcall
      obtain ⟨-, ⟨-, -, -, hunlocked, -⟩, called, hcalled, edited, hedited, rfl⟩ := hcall
      have hsame := callback.sameLifecycle chain called hcalled
      exact (hrun.of_sameLifecycle hsame).forgetModule (hsame.isLocked.trans hunlocked) hedited
  | setManager sender manager =>
      simp only [perform, edit_eq_ok] at hcall
      obtain ⟨edited, hedited, rfl⟩ := hcall
      simp only [SetToken.setManager, bind_eq_ok, pure_eq_ok] at hedited
      obtain ⟨-, -, -, -, rfl⟩ := hedited
      exact ⟨hrun.modules, hrun.locked_iff, hrun.locker⟩
  | enableModule sender module =>
      simp only [perform, bind_eq_ok, pure_eq_ok] at hcall
      obtain ⟨_, -, rfl⟩ := hcall
      exact hrun
  | disableModule sender module =>
      simp only [perform, bind_eq_ok, pure_eq_ok] at hcall
      obtain ⟨_, -, rfl⟩ := hcall
      exact hrun

/-! ## While locked -/

/-- The SetToken is locked by the holder, with modules and manager as at the lock. -/
structure Frozen (holder : Address) (atLock setToken : SetToken) : Prop where
  isLocked : setToken.isLocked = true
  locker : setToken.locker = holder
  modules : setToken.modules = atLock.modules
  manager : setToken.manager = atLock.manager
  initialized : ∀ module, setToken.moduleStates module = .INITIALIZED ↔
    atLock.moduleStates module = .INITIALIZED

variable {holder : Address} {atLock : SetToken}

theorem Frozen.of_sameLifecycle (hfrozen : Frozen holder atLock setToken)
    (hsame : SameLifecycle setToken edited) : Frozen holder atLock edited := by
  obtain ⟨hmanager, hlocker, hmodules, hstates, hlocked⟩ := hsame
  refine ⟨hlocked.trans hfrozen.isLocked, hlocker.trans hfrozen.locker,
    hmodules.trans hfrozen.modules, hmanager.trans hfrozen.manager, fun module => ?_⟩
  rw [hstates]
  exact hfrozen.initialized module

/-- Only the holder passes the guard of a frozen SetToken. -/
theorem Frozen.privileged (hfrozen : Frozen holder atLock chain.setToken)
    (hother : sender ≠ holder) (operation : PrivilegedOperation) :
    ∃ reason, performPrivileged chain sender operation = .error reason := by
  cases hcall : performPrivileged chain sender operation with
  | error reason => exact ⟨reason, rfl⟩
  | ok next =>
      have hholder := (guard_eq_ok (performPrivileged_eq_ok hcall).1).2 hfrozen.isLocked
      exact absurd (hholder.trans hfrozen.locker) hother

theorem frozen_of_lock (hcall : perform (.lock holder) chain = .ok next) :
    Frozen holder next.setToken next.setToken := by
  simp only [perform, edit_eq_ok, SetToken.lock, bind_eq_ok, pure_eq_ok] at hcall
  obtain ⟨_, ⟨-, -, -, -, rfl⟩, rfl⟩ := hcall
  exact ⟨rfl, rfl, rfl, rfl, fun _ => Iff.rfl⟩

/-- Every call but an unlock keeps the SetToken frozen. -/
theorem perform_frozen {call : ModuleCall} (hunlock : ∀ sender, call ≠ .unlock sender)
    (hfrozen : Frozen holder atLock chain.setToken) (hcall : perform call chain = .ok next) :
    Frozen holder atLock next.setToken := by
  have hlocked := hfrozen.isLocked
  cases call with
  | privileged sender operation =>
      exact hfrozen.of_sameLifecycle (performPrivileged_eq_ok hcall).2
  | lock sender =>
      simp only [perform, edit_eq_ok, SetToken.lock, bind_eq_ok, require_eq_ok] at hcall
      obtain ⟨_, ⟨-, -, -, hunlocked, -⟩, -⟩ := hcall
      rw [hlocked] at hunlocked
      cases hunlocked
  | unlock sender => exact absurd rfl (hunlock sender)
  | addModule sender module =>
      simp only [perform, edit_eq_ok, SetToken.addModule, bind_eq_ok, require_eq_ok,
        pure_eq_ok] at hcall
      obtain ⟨_, ⟨-, -, -, hnone, -, -, rfl⟩, rfl⟩ := hcall
      refine ⟨hfrozen.isLocked, hfrozen.locker, hfrozen.modules, hfrozen.manager,
        fun other => ?_⟩
      rw [← hfrozen.initialized other]
      by_cases heq : other = module
      · simp [SetToken.withModuleState, Chain.withSetToken, heq, hnone]
      · simp [SetToken.withModuleState, Chain.withSetToken, heq]
  | removePendingModule sender module =>
      simp only [perform, edit_eq_ok, SetToken.removePendingModule, bind_eq_ok,
        require_eq_ok] at hcall
      obtain ⟨_, ⟨-, -, -, hunlocked, -⟩, -⟩ := hcall
      rw [hlocked] at hunlocked
      cases hunlocked
  | initializeModule sender =>
      simp only [perform, edit_eq_ok, SetToken.initializeModule, bind_eq_ok,
        require_eq_ok] at hcall
      obtain ⟨_, ⟨-, hunlocked, -⟩, -⟩ := hcall
      rw [hlocked] at hunlocked
      cases hunlocked
  | removeModule sender module callback =>
      simp only [perform, removeModule, SetToken.validateRemoveModule, bind_eq_ok,
        require_eq_ok] at hcall
      obtain ⟨-, ⟨-, -, -, hunlocked, -⟩, -⟩ := hcall
      rw [hlocked] at hunlocked
      cases hunlocked
  | setManager sender manager =>
      simp only [perform, edit_eq_ok, SetToken.setManager, bind_eq_ok, require_eq_ok] at hcall
      obtain ⟨_, ⟨-, -, -, hunlocked, -⟩, -⟩ := hcall
      rw [hlocked] at hunlocked
      cases hunlocked
  | enableModule sender module =>
      simp only [perform, bind_eq_ok, pure_eq_ok] at hcall
      obtain ⟨_, -, rfl⟩ := hcall
      exact hfrozen
  | disableModule sender module =>
      simp only [perform, bind_eq_ok, pure_eq_ok] at hcall
      obtain ⟨_, -, rfl⟩ := hcall
      exact hfrozen

/-! ## Runs -/

/-- No unlock of the run returns. -/
def NoUnlock : List ModuleCall → Chain → Prop
  | [], _ => True
  | call :: calls, chain =>
      (∀ sender next, call = .unlock sender → perform call chain ≠ .ok next) ∧
        NoUnlock calls (settle (perform call) chain)

theorem run_frozen {calls : List ModuleCall} (hnone : NoUnlock calls chain)
    (hfrozen : Frozen holder atLock chain.setToken) :
    Frozen holder atLock (run perform calls chain).setToken := by
  induction calls generalizing chain with
  | nil => exact hfrozen
  | cons call calls ih =>
      obtain ⟨hcall, hrest⟩ := hnone
      rw [run_cons]
      refine ih hrest ?_
      cases hresult : perform call chain with
      | error reason => rwa [settle_of_error hresult]
      | ok next =>
          rw [settle_of_ok hresult]
          exact perform_frozen (fun sender heq => hcall sender next heq hresult) hfrozen
            hresult

theorem wellRun_deploy {components modules : List Address} {units : List ℤ}
    {manager : Address} : WellRun (SetToken.deploy components units modules manager) := by
  refine ⟨⟨List.nodup_nil, fun module => ?_⟩, by simp [SetToken.deploy], fun hlocked => by
    cases hlocked⟩
  have hstates : ∀ states : Address → ModuleState, states module ≠ .INITIALIZED →
      modules.foldl (fun states module => Function.update states module .PENDING) states
        module ≠ .INITIALIZED := by
    induction modules with
    | nil => exact fun _ hstate => hstate
    | cons other modules ih =>
        intro states hstate
        refine ih _ ?_
        by_cases heq : module = other
        · simp [heq]
        · simpa [heq] using hstate
  simpa [SetToken.deploy] using hstates (fun _ => .NONE) (by decide)

/-- Over every history of a created SetToken the list of modules follows the module
states and the lock has an initialized holder; from a lock to the next unlock, only its
holder passes, and modules and manager stay as they are. -/
theorem wellRun_of_history {controller registered : Controller} {setToken : SetToken}
    {creator setTokenAddress manager : Address} {components modules : List Address}
    {units : List ℤ}
    (hcreate : SetTokenCreator.create controller creator setTokenAddress components
      units modules manager = .ok (registered, setToken))
    {start : Chain} (hstart : start.setToken = setToken) {calls : List ModuleCall}
    (hsenders : ∀ call ∈ calls, call.sender ≠ zeroAddress) :
    WellRun (run perform calls start).setToken ∧
      ∀ holder locked, perform (.lock holder) (run perform calls start) = .ok locked →
        ∀ between, NoUnlock between locked →
          Frozen holder locked.setToken (run perform between locked).setToken ∧
          ∀ other, other ≠ holder → ∀ operation, ∃ reason,
            perform (.privileged other operation) (run perform between locked) =
              .error reason := by
  have hinitial : WellRun start.setToken := by
    obtain ⟨-, -, -, rfl⟩ := SetTokenCreator.create_eq_ok hcreate
    rw [hstart]
    exact wellRun_deploy
  refine ⟨run_preserves (fun chain : Chain => WellRun chain.setToken) (fun call hcall chain next =>
    perform_preserves (hsenders call hcall)) hinitial, ?_⟩
  intro holder locked hlocked between hnone
  have hfrozen := run_frozen hnone (frozen_of_lock hlocked)
  exact ⟨hfrozen, fun other hother operation => hfrozen.privileged hother operation⟩

/-- A Controller that knows one factory and two modules. -/
def twoModules : Controller :=
  { Controller.deploy 1 2 with
    isInitialized := true
    isFactory := fun factory => factory == 3
    isModule := fun module => module == 5 || module == 6 }

def freshChain : Chain :=
  ⟨twoModules, 9, SetToken.deploy [10] [3] [5, 6] 7, fun _ _ => 0, 1⟩

/-- Both modules are initialized, one locks, and the other one is shut out. -/
theorem wellRun_of_history_two_modules :
    WellRun (run perform [.initializeModule 5, .initializeModule 6] freshChain).setToken ∧
      ∃ locked, perform (.lock 5)
          (run perform [.initializeModule 5, .initializeModule 6] freshChain) = .ok locked ∧
        ∀ operation, ∃ reason, perform (.privileged 6 operation) locked = .error reason := by
  have hcreate : SetTokenCreator.create twoModules 3 9 [10] [3] [5, 6] 7 =
      .ok (_, SetToken.deploy [10] [3] [5, 6] 7) := rfl
  obtain ⟨hrun, hlock⟩ := wellRun_of_history hcreate (rfl : freshChain.setToken = _)
    (by decide : ∀ call ∈ [ModuleCall.initializeModule 5, .initializeModule 6],
      call.sender ≠ zeroAddress)
  refine ⟨hrun, _, rfl, fun operation => ?_⟩
  exact (hlock 5 _ rfl [] trivial).2 6 (by decide) operation

end SetProtocol.ModuleHistory
