import SetProtocol.Registry.AddressArrayUtils
import SetProtocol.Library.FlaggedList

/-!
# The Controller

The Controller lists the enabled SetTokens, factories, modules and resources,
each in an array and in a flag map, and houses the protocol fees.  Every entry
point takes the calling account as `sender`.
-/

namespace SetProtocol

open Transaction

/-- The storage of the `Controller` contract. -/
structure Controller where
  owner : Address
  sets : List Address
  factories : List Address
  modules : List Address
  resources : List Address
  isSet : Address → Bool
  isFactory : Address → Bool
  isModule : Address → Bool
  isResource : Address → Bool
  /-- Module, then fee type, to the fee in precise units. -/
  fees : Address → ℕ → ℕ
  /-- The zero address marks an identifier without a resource. -/
  resourceId : ℕ → Address
  feeRecipient : Address
  isInitialized : Bool

namespace Controller

/-- The constructor, called by the account that becomes the owner. -/
def deploy (sender feeRecipient : Address) : Controller where
  owner := sender
  sets := []
  factories := []
  modules := []
  resources := []
  isSet := fun _ => false
  isFactory := fun _ => false
  isModule := fun _ => false
  isResource := fun _ => false
  fees := fun _ _ => 0
  resourceId := fun _ => zeroAddress
  feeRecipient := feeRecipient
  isInitialized := false

def onlyOwner (controller : Controller) (sender : Address) : Outcome Unit :=
  require (sender = controller.owner) "Ownable: caller is not the owner"

def onlyFactory (controller : Controller) (sender : Address) : Outcome Unit :=
  require (controller.isFactory sender = true) "Only valid factories can call"

def onlyInitialized (controller : Controller) : Outcome Unit :=
  require (controller.isInitialized = true) "Contract must be initialized."

/-- Body of the loops over `_factories` and `_modules`: flag one address. -/
def flagAddress (flag : Address → Bool) (address : Address) :
    Outcome (Address → Bool) := do
  require (address ≠ zeroAddress) "Zero address submitted."
  pure (Function.update flag address true)

/-- Body of the loop over `_resources` and their identifiers. -/
def addInitialResource (maps : (Address → Bool) × (ℕ → Address))
    (entry : Address × ℕ) : Outcome ((Address → Bool) × (ℕ → Address)) := do
  require (entry.1 ≠ zeroAddress) "Zero address submitted."
  require (maps.2 entry.2 = zeroAddress) "Resource ID already exists"
  pure (Function.update maps.1 entry.1 true, Function.update maps.2 entry.2 entry.1)

def initializeController (controller : Controller) (sender : Address)
    (factories modules resources : List Address) (resourceIds : List ℕ) :
    Outcome Controller := do
  controller.onlyOwner sender
  require (controller.isInitialized = false) "Controller is already initialized"
  require (resources.length = resourceIds.length) "Array lengths do not match."
  let isFactory ← factories.foldlM flagAddress controller.isFactory
  let isModule ← modules.foldlM flagAddress controller.isModule
  let maps ← (resources.zip resourceIds).foldlM addInitialResource
    (controller.isResource, controller.resourceId)
  pure { controller with
    factories := factories
    modules := modules
    resources := resources
    isFactory := isFactory
    isModule := isModule
    isResource := maps.1
    resourceId := maps.2
    isInitialized := true }

def addSet (controller : Controller) (sender setToken : Address) :
    Outcome Controller := do
  controller.onlyInitialized
  controller.onlyFactory sender
  require (controller.isSet setToken ≠ true) "Set already exists"
  pure { controller with
    isSet := Function.update controller.isSet setToken true
    sets := controller.sets ++ [setToken] }

def removeSet (controller : Controller) (sender setToken : Address) :
    Outcome Controller := do
  controller.onlyInitialized
  controller.onlyOwner sender
  require (controller.isSet setToken = true) "Set does not exist"
  let sets ← AddressArrayUtils.remove controller.sets setToken
  pure { controller with
    sets := sets
    isSet := Function.update controller.isSet setToken false }

def addFactory (controller : Controller) (sender factory : Address) :
    Outcome Controller := do
  controller.onlyInitialized
  controller.onlyOwner sender
  require (controller.isFactory factory ≠ true) "Factory already exists"
  pure { controller with
    isFactory := Function.update controller.isFactory factory true
    factories := controller.factories ++ [factory] }

def removeFactory (controller : Controller) (sender factory : Address) :
    Outcome Controller := do
  controller.onlyInitialized
  controller.onlyOwner sender
  require (controller.isFactory factory = true) "Factory does not exist"
  let factories ← AddressArrayUtils.remove controller.factories factory
  pure { controller with
    factories := factories
    isFactory := Function.update controller.isFactory factory false }

def addModule (controller : Controller) (sender module : Address) :
    Outcome Controller := do
  controller.onlyInitialized
  controller.onlyOwner sender
  require (controller.isModule module ≠ true) "Module already exists"
  pure { controller with
    isModule := Function.update controller.isModule module true
    modules := controller.modules ++ [module] }

def removeModule (controller : Controller) (sender module : Address) :
    Outcome Controller := do
  controller.onlyInitialized
  controller.onlyOwner sender
  require (controller.isModule module = true) "Module does not exist"
  let modules ← AddressArrayUtils.remove controller.modules module
  pure { controller with
    modules := modules
    isModule := Function.update controller.isModule module false }

def addResource (controller : Controller) (sender resource : Address) (id : ℕ) :
    Outcome Controller := do
  controller.onlyInitialized
  controller.onlyOwner sender
  require (controller.isResource resource ≠ true) "Resource already exists"
  require (controller.resourceId id = zeroAddress) "Resource ID already exists"
  pure { controller with
    isResource := Function.update controller.isResource resource true
    resourceId := Function.update controller.resourceId id resource
    resources := controller.resources ++ [resource] }

def removeResource (controller : Controller) (sender : Address) (id : ℕ) :
    Outcome Controller := do
  controller.onlyInitialized
  controller.onlyOwner sender
  let resourceToRemove := controller.resourceId id
  require (resourceToRemove ≠ zeroAddress) "Resource does not exist"
  let resources ← AddressArrayUtils.remove controller.resources resourceToRemove
  pure { controller with
    resources := resources
    resourceId := Function.update controller.resourceId id zeroAddress
    isResource := Function.update controller.isResource resourceToRemove false }

/-- Record the percentage of one fee type of a module. -/
def setFee (controller : Controller) (module : Address) (feeType percentage : ℕ) :
    Controller :=
  { controller with
    fees := Function.update controller.fees module
      (Function.update (controller.fees module) feeType percentage) }

def addFee (controller : Controller) (sender module : Address)
    (feeType newFeePercentage : ℕ) : Outcome Controller := do
  controller.onlyInitialized
  controller.onlyOwner sender
  require (controller.isModule module = true) "Module does not exist"
  require (controller.fees module feeType = 0) "Fee type already exists on module"
  pure (controller.setFee module feeType newFeePercentage)

def editFee (controller : Controller) (sender module : Address)
    (feeType newFeePercentage : ℕ) : Outcome Controller := do
  controller.onlyInitialized
  controller.onlyOwner sender
  require (controller.isModule module = true) "Module does not exist"
  require (controller.fees module feeType ≠ 0) "Fee type does not exist on module"
  pure (controller.setFee module feeType newFeePercentage)

def getModuleFee (controller : Controller) (module : Address) (feeType : ℕ) : ℕ :=
  controller.fees module feeType

end Controller

end SetProtocol
