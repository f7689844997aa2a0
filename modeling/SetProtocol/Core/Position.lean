import SetProtocol.Core.SetToken
import SetProtocol.Library.Index

/-!
# Editing positions

The functions of the `Position` library.  A module calls them, so every call
they make on the SetToken comes from that module: `sender` below.
-/

namespace SetProtocol.Position

open Transaction

/-- A default position exists if its real unit is positive. -/
def hasDefaultPosition (setToken : SetToken) (component : Address) : Outcome Bool := do
  let unit ← setToken.getDefaultPositionRealUnit component
  pure (decide (0 < unit))

def hasExternalPosition (setToken : SetToken) (component : Address) : Bool :=
  decide (0 < (setToken.getExternalPositionModules component).length)

def hasSufficientDefaultUnits (setToken : SetToken) (component : Address)
    (unit : ℕ) : Outcome Bool := do
  let realUnit ← setToken.getDefaultPositionRealUnit component
  let required ← SafeCast.toInt256 unit
  pure (decide (required ≤ realUnit))

/-- Set the default position of a component to `newUnit`.  The component is added
or removed where no external position keeps it. -/
def editDefaultPosition (setToken : SetToken) (controller : Controller)
    (sender component : Address) (newUnit : ℕ) : Outcome SetToken := do
  let isPositionFound ← hasDefaultPosition setToken component
  let edited ← (
    if isPositionFound = false ∧ 0 < newUnit then
      if hasExternalPosition setToken component = false then
        setToken.addComponent controller sender component
      else .ok setToken
    else if isPositionFound = true ∧ newUnit = 0 then
      if hasExternalPosition setToken component = false then
        setToken.removeComponent controller sender component
      else .ok setToken
    else .ok setToken)
  let unit ← SafeCast.toInt256 newUnit
  edited.editDefaultPositionUnit controller sender component unit

/-- Set the external position that `module` has on a component. -/
def editExternalPosition (setToken : SetToken) (controller : Controller)
    (sender component module : Address) (newUnit : ℤ) (data : Bytes) :
    Outcome SetToken :=
  if newUnit ≠ 0 then do
    let added ← (
      if setToken.isComponent component = false then do
        let added ← setToken.addComponent controller sender component
        added.addExternalPositionModule controller sender component module
      else if setToken.isExternalPositionModule component module = false then
        setToken.addExternalPositionModule controller sender component module
      else .ok setToken)
    let edited ←
      added.editExternalPositionUnit controller sender component module newUnit
    edited.editExternalPositionData controller sender component module data
  else do
    require (data.length = 0) "Passed data must be null"
    let unit ← setToken.getExternalPositionRealUnit component module
    if unit ≠ 0 then do
      let positionModules := setToken.getExternalPositionModules component
      let defaultUnit ← setToken.getDefaultPositionRealUnit component
      let edited ← (
        if defaultUnit = 0 ∧ positionModules.length = 1 then do
          let only ← AddressArrayUtils.readEntry positionModules 0
          require (only = module) "External positions must be 0 to remove component"
          setToken.removeComponent controller sender component
        else .ok setToken)
      edited.removeExternalPositionModule controller sender component module
    else .ok setToken

def getDefaultTotalNotional (setTokenSupply positionUnit : ℕ) : Outcome ℕ :=
  PreciseUnitMath.preciseMul setTokenSupply positionUnit

def getDefaultPositionUnit (setTokenSupply totalNotional : ℕ) : Outcome ℕ :=
  PreciseUnitMath.preciseDiv totalNotional setTokenSupply

/-- Total supply times the default real unit. -/
def getDefaultTrackedBalance (setToken : SetToken) (component : Address) :
    Outcome ℕ := do
  let positionUnit ← setToken.getDefaultPositionRealUnit component
  let unit ← SafeCast.toUint256 positionUnit
  PreciseUnitMath.preciseMul setToken.totalSupply unit

/-- New position unit from the notional amounts before and after an action.  What
was held in excess of the position before stays out of it. -/
def calculateDefaultEditPositionUnit (setTokenSupply preTotalNotional
    postTotalNotional prePositionUnit : ℕ) : Outcome ℕ := do
  let tracked ← PreciseUnitMath.preciseMul prePositionUnit setTokenSupply
  let airdroppedAmount ← SafeMath.sub preTotalNotional tracked
  let notional ← SafeMath.sub postTotalNotional airdroppedAmount
  PreciseUnitMath.preciseDiv notional setTokenSupply

/-- Recompute the default position of a component from its current balance.
Returns the SetToken, and the position unit before and after. -/
def calculateAndEditDefaultPosition (setToken : SetToken) (controller : Controller)
    (sender component : Address)
    (currentBalance setTotalSupply componentPreviousBalance : ℕ) :
    Outcome (SetToken × ℕ × ℕ) := do
  let realUnit ← setToken.getDefaultPositionRealUnit component
  let positionUnit ← SafeCast.toUint256 realUnit
  let newTokenUnit ← (
    if 0 < currentBalance then
      calculateDefaultEditPositionUnit setTotalSupply componentPreviousBalance
        currentBalance positionUnit
    else .ok 0)
  let edited ← editDefaultPosition setToken controller sender component newTokenUnit
  pure (edited, positionUnit, newTokenUnit)

end SetProtocol.Position
