import SetProtocol.Registry.Controller
import SetProtocol.Arithmetic.PreciseUnitMath

/-!
# The SetToken

A SetToken stores the positions of one Set: for each component a default
position and a list of modules with an external position each.  Units are kept
as virtual units; the position multiplier converts them to real units.  The
privileged functions take the calling account as `sender` and check it against
the module states and the Controller.
-/

namespace SetProtocol

open Transaction

/-- Progress of a module on a SetToken. -/
inductive ModuleState
  | NONE
  | PENDING
  | INITIALIZED
  deriving DecidableEq

/-- The part of a component that one module manages. -/
structure ExternalPosition where
  virtualUnit : ℤ
  data : Bytes

/-- All positions of one component, in virtual units. -/
structure ComponentPosition where
  virtualUnit : ℤ
  externalPositionModules : List Address
  externalPositions : Address → ExternalPosition

/-- The storage of the `SetToken` contract.  Its ERC20 balances stand in the
ledger of all tokens. -/
structure SetToken where
  manager : Address
  locker : Address
  modules : List Address
  moduleStates : Address → ModuleState
  isLocked : Bool
  components : List Address
  componentPositions : Address → ComponentPosition
  positionMultiplier : ℤ
  totalSupply : ℕ

namespace SetToken

/-- A deleted external position. -/
def noExternalPosition : ExternalPosition := ⟨0, []⟩

/-- Storage of a component that was never written. -/
def noPosition : ComponentPosition := ⟨0, [], fun _ => noExternalPosition⟩

/-- The constructor.  All its arguments are validated by the SetTokenCreator. -/
def deploy (components : List Address) (units : List ℤ) (modules : List Address)
    (manager : Address) : SetToken where
  manager := manager
  locker := zeroAddress
  modules := []
  moduleStates := modules.foldl
    (fun states module => Function.update states module .PENDING)
    (fun _ => .NONE)
  isLocked := false
  components := components
  componentPositions := (components.zip units).foldl
    (fun positions entry => Function.update positions entry.1
      { positions entry.1 with virtualUnit := entry.2 })
    (fun _ => noPosition)
  positionMultiplier := PreciseUnitMath.preciseUnitInt
  totalSupply := 0

/-! ## Guards -/

/-- Module must be initialized on the SetToken and enabled by the Controller. -/
def validateOnlyModule (setToken : SetToken) (controller : Controller)
    (sender : Address) : Outcome Unit := do
  require (setToken.moduleStates sender = .INITIALIZED) "Only the module can call"
  require (controller.isModule sender = true) "Module must be enabled on controller"

def validateOnlyManager (setToken : SetToken) (sender : Address) : Outcome Unit :=
  require (sender = setToken.manager) "Only manager can call"

def validateWhenLockedOnlyLocker (setToken : SetToken) (sender : Address) :
    Outcome Unit :=
  if setToken.isLocked = true then
    require (sender = setToken.locker) "When locked, only the locker can call"
  else pure ()

/-- The two modifiers of a privileged module function. -/
def onlyModuleWhenLockedOnlyLocker (setToken : SetToken) (controller : Controller)
    (sender : Address) : Outcome Unit := do
  setToken.validateOnlyModule controller sender
  setToken.validateWhenLockedOnlyLocker sender

/-! ## Getters -/

def defaultPositionVirtualUnit (setToken : SetToken) (component : Address) : ℤ :=
  (setToken.componentPositions component).virtualUnit

def getExternalPositionModules (setToken : SetToken) (component : Address) :
    List Address :=
  (setToken.componentPositions component).externalPositionModules

def externalPositionVirtualUnit (setToken : SetToken)
    (component positionModule : Address) : ℤ :=
  ((setToken.componentPositions component).externalPositions positionModule).virtualUnit

/-- Virtual unit times the position multiplier. -/
def convertVirtualToRealUnit (setToken : SetToken) (virtualUnit : ℤ) : Outcome ℤ :=
  PreciseUnitMath.conservativePreciseMul virtualUnit setToken.positionMultiplier

/-- Real unit divided by the position multiplier.  A positive unit that either
direction of the conversion would round to zero is refused. -/
def convertRealToVirtualUnit (setToken : SetToken) (realUnit : ℤ) : Outcome ℤ := do
  let virtualUnit ←
    PreciseUnitMath.conservativePreciseDiv realUnit setToken.positionMultiplier
  if 0 < realUnit then do
    require (virtualUnit ≠ 0) "Real to Virtual unit conversion invalid"
    let back ← setToken.convertVirtualToRealUnit virtualUnit
    require (back ≠ 0) "Virtual to Real unit conversion invalid"
    pure virtualUnit
  else pure virtualUnit

def getDefaultPositionRealUnit (setToken : SetToken) (component : Address) :
    Outcome ℤ :=
  setToken.convertVirtualToRealUnit (setToken.defaultPositionVirtualUnit component)

def getExternalPositionRealUnit (setToken : SetToken)
    (component positionModule : Address) : Outcome ℤ :=
  setToken.convertVirtualToRealUnit
    (setToken.externalPositionVirtualUnit component positionModule)

def isComponent (setToken : SetToken) (component : Address) : Bool :=
  AddressArrayUtils.contains setToken.components component

def isExternalPositionModule (setToken : SetToken) (component module : Address) :
    Bool :=
  AddressArrayUtils.contains (setToken.getExternalPositionModules component) module

/-- Default and external real units of a component together. -/
def getTotalComponentRealUnits (setToken : SetToken) (component : Address) :
    Outcome ℤ := do
  let defaultUnits ← setToken.getDefaultPositionRealUnit component
  (setToken.getExternalPositionModules component).foldlM
    (fun totalUnits module => do
      let unit ← setToken.getExternalPositionRealUnit component module
      SignedSafeMath.add totalUnits unit) defaultUnits

/-- A stored default unit, or the position that a module manages. -/
inductive PositionState
  | DEFAULT
  | EXTERNAL
  deriving DecidableEq

structure Position where
  component : Address
  module : Address
  unit : ℤ
  positionState : PositionState
  data : Bytes

/-- The default position, if there is one. -/
def getDefaultPositions (setToken : SetToken) (component : Address) :
    Outcome (List Position) :=
  if 0 < setToken.defaultPositionVirtualUnit component then do
    let unit ← setToken.getDefaultPositionRealUnit component
    pure [⟨component, zeroAddress, unit, .DEFAULT, []⟩]
  else pure []

def getExternalPosition (setToken : SetToken) (component module : Address) :
    Outcome Position := do
  let unit ← setToken.getExternalPositionRealUnit component module
  pure ⟨component, module, unit, .EXTERNAL,
    ((setToken.componentPositions component).externalPositions module).data⟩

/-- Component by component, the default position first. -/
def getPositions (setToken : SetToken) : Outcome (List Position) := do
  let positions ← setToken.components.mapM fun component => do
    let default ← setToken.getDefaultPositions component
    let external ← (setToken.getExternalPositionModules component).mapM
      (setToken.getExternalPosition component)
    pure (default ++ external)
  pure positions.flatten

/-! ## Position bookkeeping -/

def withComponents (setToken : SetToken) (components : List Address) : SetToken :=
  { setToken with components := components }

/-- The positions with those of one component replaced. -/
def withPosition (setToken : SetToken) (component : Address)
    (position : ComponentPosition) : SetToken :=
  { setToken with
    componentPositions :=
      Function.update setToken.componentPositions component position }

def addComponent (setToken : SetToken) (controller : Controller)
    (sender component : Address) : Outcome SetToken := do
  setToken.onlyModuleWhenLockedOnlyLocker controller sender
  require (setToken.isComponent component ≠ true) "Must not be component"
  pure (setToken.withComponents (setToken.components ++ [component]))

def removeComponent (setToken : SetToken) (controller : Controller)
    (sender component : Address) : Outcome SetToken := do
  setToken.onlyModuleWhenLockedOnlyLocker controller sender
  let components ← AddressArrayUtils.removeStorage setToken.components component
  pure (setToken.withComponents components)

def editDefaultPositionUnit (setToken : SetToken) (controller : Controller)
    (sender component : Address) (realUnit : ℤ) : Outcome SetToken := do
  setToken.onlyModuleWhenLockedOnlyLocker controller sender
  let virtualUnit ← setToken.convertRealToVirtualUnit realUnit
  pure (setToken.withPosition component
    { setToken.componentPositions component with virtualUnit := virtualUnit })

def addExternalPositionModule (setToken : SetToken) (controller : Controller)
    (sender component positionModule : Address) : Outcome SetToken := do
  setToken.onlyModuleWhenLockedOnlyLocker controller sender
  require (setToken.isExternalPositionModule component positionModule ≠ true)
    "Module already added"
  pure (setToken.withPosition component
    { setToken.componentPositions component with
      externalPositionModules :=
        setToken.getExternalPositionModules component ++ [positionModule] })

def removeExternalPositionModule (setToken : SetToken) (controller : Controller)
    (sender component positionModule : Address) : Outcome SetToken := do
  setToken.onlyModuleWhenLockedOnlyLocker controller sender
  let externalPositionModules ← AddressArrayUtils.removeStorage
    (setToken.getExternalPositionModules component) positionModule
  let position := setToken.componentPositions component
  pure (setToken.withPosition component
    { position with
      externalPositionModules := externalPositionModules
      externalPositions :=
        Function.update position.externalPositions positionModule noExternalPosition })

/-- The positions with one external position rewritten. -/
def withExternalPosition (setToken : SetToken) (component positionModule : Address)
    (externalPosition : ExternalPosition) : SetToken :=
  let position := setToken.componentPositions component
  setToken.withPosition component
    { position with
      externalPositions :=
        Function.update position.externalPositions positionModule externalPosition }

def editExternalPositionUnit (setToken : SetToken) (controller : Controller)
    (sender component positionModule : Address) (realUnit : ℤ) :
    Outcome SetToken := do
  setToken.onlyModuleWhenLockedOnlyLocker controller sender
  let virtualUnit ← setToken.convertRealToVirtualUnit realUnit
  pure (setToken.withExternalPosition component positionModule
    { (setToken.componentPositions component).externalPositions positionModule with
      virtualUnit := virtualUnit })

def editExternalPositionData (setToken : SetToken) (controller : Controller)
    (sender component positionModule : Address) (data : Bytes) :
    Outcome SetToken := do
  setToken.onlyModuleWhenLockedOnlyLocker controller sender
  pure (setToken.withExternalPosition component positionModule
    { (setToken.componentPositions component).externalPositions positionModule with
      data := data })

/-! ## The position multiplier -/

/-- Negating the least `int256` wraps around to itself, and the cast refuses it. -/
def absoluteValue (a : ℤ) : Outcome ℕ :=
  if 0 ≤ a then SafeCast.toUint256 a
  else SafeCast.toUint256 (if a = minInt256 then a else -a)

/-- Lower the running minimum to `unit`, unless it is zero. -/
def lesserUnit (minimumUnit unit : ℕ) : ℕ :=
  if 0 < unit ∧ unit < minimumUnit then unit else minimumUnit

/-- Smallest non-zero absolute virtual unit of all positions. -/
def getPositionsAbsMinimumVirtualUnit (setToken : SetToken) : Outcome ℤ := do
  let minimumUnit ← setToken.components.foldlM (fun minimumUnit component => do
    let defaultUnit ←
      SafeCast.toUint256 (setToken.defaultPositionVirtualUnit component)
    (setToken.getExternalPositionModules component).foldlM
      (fun minimumUnit module => do
        let virtualUnit ←
          absoluteValue (setToken.externalPositionVirtualUnit component module)
        pure (lesserUnit minimumUnit virtualUnit))
      (lesserUnit minimumUnit defaultUnit)) maxUint256
  SafeCast.toInt256 minimumUnit

/-- No position may be rounded to zero by the new multiplier. -/
def validateNewMultiplier (setToken : SetToken) (newMultiplier : ℤ) :
    Outcome Unit := do
  let minVirtualUnit ← setToken.getPositionsAbsMinimumVirtualUnit
  let unit ← PreciseUnitMath.conservativePreciseMul minVirtualUnit newMultiplier
  require (0 < unit) "New multiplier too small"

def editPositionMultiplier (setToken : SetToken) (controller : Controller)
    (sender : Address) (newMultiplier : ℤ) : Outcome SetToken := do
  setToken.onlyModuleWhenLockedOnlyLocker controller sender
  setToken.validateNewMultiplier newMultiplier
  pure { setToken with positionMultiplier := newMultiplier }

/-! ## Locking and module management -/

def lock (setToken : SetToken) (controller : Controller) (sender : Address) :
    Outcome SetToken := do
  setToken.validateOnlyModule controller sender
  require (setToken.isLocked = false) "Must not be locked"
  pure { setToken with locker := sender, isLocked := true }

def unlock (setToken : SetToken) (controller : Controller) (sender : Address) :
    Outcome SetToken := do
  setToken.validateOnlyModule controller sender
  require (setToken.isLocked = true) "Must be locked"
  require (setToken.locker = sender) "Must be locker"
  pure { setToken with locker := zeroAddress, isLocked := false }

/-- The SetToken with the state of one module changed. -/
def withModuleState (setToken : SetToken) (module : Address) (state : ModuleState) :
    SetToken :=
  { setToken with moduleStates := Function.update setToken.moduleStates module state }

def addModule (setToken : SetToken) (controller : Controller)
    (sender module : Address) : Outcome SetToken := do
  setToken.validateOnlyManager sender
  require (setToken.moduleStates module = .NONE) "Module must not be added"
  require (controller.isModule module = true) "Must be enabled on Controller"
  pure (setToken.withModuleState module .PENDING)

def removePendingModule (setToken : SetToken) (sender module : Address) :
    Outcome SetToken := do
  setToken.validateOnlyManager sender
  require (setToken.isLocked = false) "Only when unlocked"
  require (setToken.moduleStates module = .PENDING) "Module must be pending"
  pure (setToken.withModuleState module .NONE)

/-- `initialize` of the SetToken, called by the module itself. -/
def initializeModule (setToken : SetToken) (sender : Address) : Outcome SetToken := do
  require (setToken.isLocked = false) "Only when unlocked"
  require (setToken.moduleStates sender = .PENDING) "Module must be pending"
  pure { setToken.withModuleState sender .INITIALIZED with
    modules := setToken.modules ++ [sender] }

/-- What `removeModule` checks before it calls the module. -/
def validateRemoveModule (setToken : SetToken) (sender module : Address) :
    Outcome Unit := do
  setToken.validateOnlyManager sender
  require (setToken.isLocked = false) "Only when unlocked"
  require (setToken.moduleStates module = .INITIALIZED) "Module must be added"

/-- What `removeModule` writes after the module's own callback. -/
def forgetModule (setToken : SetToken) (module : Address) : Outcome SetToken := do
  let modules ← AddressArrayUtils.removeStorage setToken.modules module
  pure { setToken.withModuleState module .NONE with modules := modules }

def setManager (setToken : SetToken) (sender manager : Address) :
    Outcome SetToken := do
  setToken.validateOnlyManager sender
  require (setToken.isLocked = false) "Only when unlocked"
  pure { setToken with manager := manager }

/-! ## What the functions check and write -/

variable {setToken next : SetToken} {controller : Controller}
variable {sender component module : Address}

@[simp]
theorem isComponent_eq_true : setToken.isComponent component = true ↔
    component ∈ setToken.components :=
  AddressArrayUtils.contains_eq_true

@[simp]
theorem isExternalPositionModule_eq_true :
    setToken.isExternalPositionModule component module = true ↔
      module ∈ setToken.getExternalPositionModules component :=
  AddressArrayUtils.contains_eq_true

/-- The guard only looks at the module states and the lock. -/
theorem onlyModuleWhenLockedOnlyLocker_congr {other : SetToken}
    (hstates : other.moduleStates = setToken.moduleStates)
    (hlocked : other.isLocked = setToken.isLocked)
    (hlocker : other.locker = setToken.locker) :
    other.onlyModuleWhenLockedOnlyLocker controller sender =
      setToken.onlyModuleWhenLockedOnlyLocker controller sender := by
  simp only [onlyModuleWhenLockedOnlyLocker, validateOnlyModule,
    validateWhenLockedOnlyLocker, hstates, hlocked, hlocker]

/-- The texts of the guard. -/
def guardReasons : List String :=
  ["Only the module can call", "Module must be enabled on controller",
    "When locked, only the locker can call"]

theorem revertsOnly_guard (setToken : SetToken) (controller : Controller)
    (sender : Address) : RevertsOnly (fun reason => reason ∈ guardReasons)
      (setToken.onlyModuleWhenLockedOnlyLocker controller sender) := by
  refine RevertsOnly.bind (RevertsOnly.bind (revertsOnly_require fun _ => by decide)
    fun _ _ => revertsOnly_require fun _ => by decide) fun _ _ => ?_
  exact RevertsOnly.ite (fun _ => revertsOnly_require fun _ => by decide)
    fun _ => revertsOnly_pure _

theorem arithmetic_convertVirtualToRealUnit (setToken : SetToken) (virtualUnit : ℤ) :
    Arithmetic (setToken.convertVirtualToRealUnit virtualUnit) :=
  PreciseUnitMath.arithmetic_conservativePreciseMul _ _

theorem addComponent_eq_ok :
    setToken.addComponent controller sender component = .ok next ↔
      setToken.onlyModuleWhenLockedOnlyLocker controller sender = .ok () ∧
        component ∉ setToken.components ∧
        setToken.withComponents (setToken.components ++ [component]) = next := by
  simp only [addComponent, bind_eq_ok, require_eq_ok, pure_eq_ok, exists_const,
    isComponent_eq_true, ne_eq]
  exact ⟨fun ⟨_, hcall⟩ => hcall, fun hcall => ⟨(), hcall⟩⟩

theorem removeComponent_eq_ok
    (hcall : setToken.removeComponent controller sender component = .ok next) :
    setToken.onlyModuleWhenLockedOnlyLocker controller sender = .ok () ∧
      component ∈ setToken.components ∧
      ∃ components, components.Perm (setToken.components.erase component) ∧
        next = setToken.withComponents components := by
  simp only [removeComponent, bind_eq_ok, pure_eq_ok] at hcall
  obtain ⟨_, hguard, components, hremove, rfl⟩ := hcall
  obtain ⟨hmem, hperm⟩ := AddressArrayUtils.removeStorage_eq_ok hremove
  exact ⟨hguard, hmem, components, hperm, rfl⟩

theorem editDefaultPositionUnit_eq_ok {realUnit : ℤ} :
    setToken.editDefaultPositionUnit controller sender component realUnit = .ok next ↔
      setToken.onlyModuleWhenLockedOnlyLocker controller sender = .ok () ∧
        ∃ virtualUnit, setToken.convertRealToVirtualUnit realUnit = .ok virtualUnit ∧
          setToken.withPosition component
            { setToken.componentPositions component with virtualUnit := virtualUnit } =
              next := by
  simp only [editDefaultPositionUnit, bind_eq_ok, pure_eq_ok]
  exact ⟨fun ⟨_, hcall⟩ => hcall, fun hcall => ⟨(), hcall⟩⟩

theorem addExternalPositionModule_eq_ok :
    setToken.addExternalPositionModule controller sender component module = .ok next ↔
      setToken.onlyModuleWhenLockedOnlyLocker controller sender = .ok () ∧
        module ∉ setToken.getExternalPositionModules component ∧
        setToken.withPosition component
          { setToken.componentPositions component with
            externalPositionModules :=
              setToken.getExternalPositionModules component ++ [module] } = next := by
  simp only [addExternalPositionModule, bind_eq_ok, require_eq_ok, pure_eq_ok,
    exists_const, isExternalPositionModule_eq_true, ne_eq]
  exact ⟨fun ⟨_, hcall⟩ => hcall, fun hcall => ⟨(), hcall⟩⟩

theorem removeExternalPositionModule_eq_ok
    (hcall : setToken.removeExternalPositionModule controller sender component module =
      .ok next) :
    setToken.onlyModuleWhenLockedOnlyLocker controller sender = .ok () ∧
      module ∈ setToken.getExternalPositionModules component ∧
      ∃ modules, modules.Perm
          ((setToken.getExternalPositionModules component).erase module) ∧
        next = setToken.withPosition component
          { setToken.componentPositions component with
            externalPositionModules := modules
            externalPositions := Function.update
              (setToken.componentPositions component).externalPositions module
              noExternalPosition } := by
  simp only [removeExternalPositionModule, bind_eq_ok, pure_eq_ok] at hcall
  obtain ⟨_, hguard, modules, hremove, rfl⟩ := hcall
  obtain ⟨hmem, hperm⟩ := AddressArrayUtils.removeStorage_eq_ok hremove
  exact ⟨hguard, hmem, modules, hperm, rfl⟩

theorem editExternalPositionUnit_eq_ok {realUnit : ℤ} :
    setToken.editExternalPositionUnit controller sender component module realUnit =
        .ok next ↔
      setToken.onlyModuleWhenLockedOnlyLocker controller sender = .ok () ∧
        ∃ virtualUnit, setToken.convertRealToVirtualUnit realUnit = .ok virtualUnit ∧
          setToken.withExternalPosition component module
            { (setToken.componentPositions component).externalPositions module with
              virtualUnit := virtualUnit } = next := by
  simp only [editExternalPositionUnit, bind_eq_ok, pure_eq_ok]
  exact ⟨fun ⟨_, hcall⟩ => hcall, fun hcall => ⟨(), hcall⟩⟩

theorem editExternalPositionData_eq_ok {data : Bytes} :
    setToken.editExternalPositionData controller sender component module data =
        .ok next ↔
      setToken.onlyModuleWhenLockedOnlyLocker controller sender = .ok () ∧
        setToken.withExternalPosition component module
          { (setToken.componentPositions component).externalPositions module with
            data := data } = next := by
  simp only [editExternalPositionData, bind_eq_ok, pure_eq_ok]
  exact ⟨fun ⟨_, hcall⟩ => hcall, fun hcall => ⟨(), hcall⟩⟩

theorem editPositionMultiplier_eq_ok {newMultiplier : ℤ} :
    setToken.editPositionMultiplier controller sender newMultiplier = .ok next ↔
      setToken.onlyModuleWhenLockedOnlyLocker controller sender = .ok () ∧
        setToken.validateNewMultiplier newMultiplier = .ok () ∧
        { setToken with positionMultiplier := newMultiplier } = next := by
  simp only [editPositionMultiplier, bind_eq_ok, pure_eq_ok]
  exact ⟨fun ⟨_, hguard, _, hrest⟩ => ⟨hguard, hrest⟩,
    fun ⟨hguard, hrest⟩ => ⟨(), hguard, (), hrest⟩⟩

end SetToken

end SetProtocol
