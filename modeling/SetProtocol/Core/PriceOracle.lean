import SetProtocol.Core.SetValuer
import SetProtocol.Library.Extension

/-!
# The price oracle

Prices come from the oracle of a pair, in one direction or the other, else from the oracles
of both assets against the master quote asset, else from the first adapter that has one.
The oracles and adapters are contracts of others.
-/

namespace SetProtocol

open Transaction PreciseUnitMath

/-- `isSystemContract` of the controller at the given address. -/
def Controller.isSystemContract (controller : Controller) (controllerAddress : Address)
    (contractAddress : Address) : Bool :=
  controller.isSet contractAddress || controller.isModule contractAddress ||
    controller.isResource contractAddress || controller.isFactory contractAddress ||
      contractAddress == controllerAddress

/-- What oracles and adapters answer.  An adapter may know no price. -/
structure Feeds where
  read (oracle : Address) : Outcome ℕ
  getPrice (adapter assetOne assetTwo : Address) : Outcome (Option ℕ)

/-- The storage of the `PriceOracle` contract. -/
structure PriceOracle where
  owner : Address
  controllerAddress : Address
  oracles : Address → Address → Address
  masterQuoteAsset : Address
  adapters : List Address

namespace PriceOracle

def withPair (oracle : PriceOracle) (assetOne assetTwo source : Address) : PriceOracle :=
  { oracle with
    oracles := Function.update oracle.oracles assetOne
      (Function.update (oracle.oracles assetOne) assetTwo source) }

def noPairs : Address → Address → Address := fun _ _ => zeroAddress

def deploy (sender controllerAddress masterQuoteAsset : Address)
    (adapters assetOnes assetTwos sources : List Address) : Outcome PriceOracle := do
  require (assetOnes.length = assetTwos.length ∧ assetTwos.length = sources.length)
    "Array lengths do not match."
  pure ((assetOnes.zip (assetTwos.zip sources)).foldl
    (fun oracle entry => oracle.withPair entry.1 entry.2.1 entry.2.2)
    ⟨sender, controllerAddress, noPairs, masterQuoteAsset, adapters⟩)

/-! ## Prices -/

def calculateInversePrice (feeds : Feeds) (inverseOracle : Address) : Outcome ℕ := do
  let inverseValue ← feeds.read inverseOracle
  preciseDiv preciseUnit inverseValue

def getDirectOrInversePrice (feeds : Feeds) (oracle : PriceOracle)
    (assetOne assetTwo : Address) : Outcome (Option ℕ) :=
  if oracle.oracles assetOne assetTwo ≠ zeroAddress then do
    let price ← feeds.read (oracle.oracles assetOne assetTwo)
    pure (some price)
  else if oracle.oracles assetTwo assetOne ≠ zeroAddress then do
    let price ← calculateInversePrice feeds (oracle.oracles assetTwo assetOne)
    pure (some price)
  else pure none

def getPriceFromMasterQuote (feeds : Feeds) (oracle : PriceOracle)
    (assetOne assetTwo : Address) : Outcome (Option ℕ) := do
  let foundOne ← getDirectOrInversePrice feeds oracle assetOne oracle.masterQuoteAsset
  let foundTwo ← getDirectOrInversePrice feeds oracle assetTwo oracle.masterQuoteAsset
  match foundOne, foundTwo with
  | some assetOnePrice, some assetTwoPrice => do
      let price ← preciseDiv assetOnePrice assetTwoPrice
      pure (some price)
  | _, _ => pure none

/-- The loop over the adapters. -/
def getPriceFromAdapters (feeds : Feeds) (assetOne assetTwo : Address) :
    List Address → Outcome (Option ℕ)
  | [] => pure none
  | adapter :: adapters => do
      let found ← feeds.getPrice adapter assetOne assetTwo
      match found with
      | some price => pure (some price)
      | none => getPriceFromAdapters feeds assetOne assetTwo adapters

/-- The next way to a price, if there is none yet. -/
def orElse (found : Option ℕ) (search : Outcome (Option ℕ)) : Outcome (Option ℕ) :=
  match found with
  | some price => pure (some price)
  | none => search

def getPrice (feeds : Feeds) (controller : Controller) (oracle : PriceOracle)
    (sender assetOne assetTwo : Address) : Outcome ℕ := do
  require (controller.isSystemContract oracle.controllerAddress sender = true)
    "PriceOracle.getPrice: Caller must be system contract."
  let found ← getDirectOrInversePrice feeds oracle assetOne assetTwo
  let found ← orElse found (getPriceFromMasterQuote feeds oracle assetOne assetTwo)
  let found ← orElse found (getPriceFromAdapters feeds assetOne assetTwo oracle.adapters)
  match found with
  | some price => pure price
  | none => .error "PriceOracle.getPrice: Price not found."

/-- The oracle that a system contract asks. -/
def toOracle (feeds : Feeds) (controller : Controller) (sender : Address)
    (decimals : Address → ℕ) (oracle : PriceOracle) : Oracle where
  masterQuoteAsset := oracle.masterQuoteAsset
  getPrice := getPrice feeds controller oracle sender
  decimals := decimals

/-! ## Governance -/

def onlyOwner (oracle : PriceOracle) (sender : Address) : Outcome Unit :=
  require (sender = oracle.owner) "Ownable: caller is not the owner"

def addPair (oracle : PriceOracle) (sender assetOne assetTwo source : Address) :
    Outcome PriceOracle := do
  oracle.onlyOwner sender
  require (oracle.oracles assetOne assetTwo = zeroAddress)
    "PriceOracle.addPair: Pair already exists."
  pure (oracle.withPair assetOne assetTwo source)

def editPair (oracle : PriceOracle) (sender assetOne assetTwo source : Address) :
    Outcome PriceOracle := do
  oracle.onlyOwner sender
  require (oracle.oracles assetOne assetTwo ≠ zeroAddress)
    "PriceOracle.editPair: Pair doesn't exist."
  pure (oracle.withPair assetOne assetTwo source)

def removePair (oracle : PriceOracle) (sender assetOne assetTwo : Address) :
    Outcome PriceOracle := do
  oracle.onlyOwner sender
  require (oracle.oracles assetOne assetTwo ≠ zeroAddress)
    "PriceOracle.removePair: Pair doesn't exist."
  pure (oracle.withPair assetOne assetTwo zeroAddress)

def addAdapter (oracle : PriceOracle) (sender adapter : Address) : Outcome PriceOracle := do
  oracle.onlyOwner sender
  require (AddressArrayUtils.contains oracle.adapters adapter = false)
    "PriceOracle.addAdapter: Adapter already exists."
  pure { oracle with adapters := oracle.adapters ++ [adapter] }

def removeAdapter (oracle : PriceOracle) (sender adapter : Address) :
    Outcome PriceOracle := do
  oracle.onlyOwner sender
  require (AddressArrayUtils.contains oracle.adapters adapter = true)
    "PriceOracle.removeAdapter: Adapter does not exist."
  let adapters ← AddressArrayUtils.remove oracle.adapters adapter
  pure { oracle with adapters := adapters }

def editMasterQuoteAsset (oracle : PriceOracle) (sender newMasterQuoteAsset : Address) :
    Outcome PriceOracle := do
  oracle.onlyOwner sender
  pure { oracle with masterQuoteAsset := newMasterQuoteAsset }

def transferOwnership (oracle : PriceOracle) (sender newOwner : Address) :
    Outcome PriceOracle := do
  oracle.onlyOwner sender
  require (newOwner ≠ zeroAddress) "Ownable: new owner is the zero address"
  pure { oracle with owner := newOwner }

def renounceOwnership (oracle : PriceOracle) (sender : Address) : Outcome PriceOracle := do
  oracle.onlyOwner sender
  pure { oracle with owner := zeroAddress }

inductive Call
  | addPair (sender assetOne assetTwo source : Address)
  | editPair (sender assetOne assetTwo source : Address)
  | removePair (sender assetOne assetTwo : Address)
  | addAdapter (sender adapter : Address)
  | removeAdapter (sender adapter : Address)
  | editMasterQuoteAsset (sender newMasterQuoteAsset : Address)
  | transferOwnership (sender newOwner : Address)
  | renounceOwnership (sender : Address)

def perform : Call → PriceOracle → Outcome PriceOracle
  | .addPair sender assetOne assetTwo source => fun oracle =>
      oracle.addPair sender assetOne assetTwo source
  | .editPair sender assetOne assetTwo source => fun oracle =>
      oracle.editPair sender assetOne assetTwo source
  | .removePair sender assetOne assetTwo => fun oracle =>
      oracle.removePair sender assetOne assetTwo
  | .addAdapter sender adapter => fun oracle => oracle.addAdapter sender adapter
  | .removeAdapter sender adapter => fun oracle => oracle.removeAdapter sender adapter
  | .editMasterQuoteAsset sender newMasterQuoteAsset => fun oracle =>
      oracle.editMasterQuoteAsset sender newMasterQuoteAsset
  | .transferOwnership sender newOwner => fun oracle =>
      oracle.transferOwnership sender newOwner
  | .renounceOwnership sender => fun oracle => oracle.renounceOwnership sender

/-! ## Prices that governance does not touch -/

variable {feeds : Feeds} {controller : Controller} {oracle next : PriceOracle}
variable {sender assetOne assetTwo : Address} {decimals : Address → ℕ}

/-- The prices of a pair come from the same sources, and no adapter has gone. -/
structure SameSources (assets : List Address) (oracle next : PriceOracle) : Prop where
  controllerAddress : next.controllerAddress = oracle.controllerAddress
  masterQuoteAsset : next.masterQuoteAsset = oracle.masterQuoteAsset
  oracles : ∀ one ∈ assets, ∀ two ∈ assets, next.oracles one two = oracle.oracles one two
  adapters : oracle.adapters <+: next.adapters

theorem SameSources.refl (assets : List Address) (oracle : PriceOracle) :
    SameSources assets oracle oracle :=
  ⟨rfl, rfl, fun _ _ _ _ => rfl, List.prefix_refl _⟩

theorem SameSources.trans {assets : List Address} {middle : PriceOracle}
    (hfirst : SameSources assets oracle middle) (hsecond : SameSources assets middle next) :
    SameSources assets oracle next where
  controllerAddress := hsecond.controllerAddress.trans hfirst.controllerAddress
  masterQuoteAsset := hsecond.masterQuoteAsset.trans hfirst.masterQuoteAsset
  oracles := fun one hone two htwo =>
    (hsecond.oracles one hone two htwo).trans (hfirst.oracles one hone two htwo)
  adapters := hfirst.adapters.trans hsecond.adapters

theorem getDirectOrInversePrice_congr
    (hdirect : next.oracles assetOne assetTwo = oracle.oracles assetOne assetTwo)
    (hinverse : next.oracles assetTwo assetOne = oracle.oracles assetTwo assetOne) :
    getDirectOrInversePrice feeds next assetOne assetTwo =
      getDirectOrInversePrice feeds oracle assetOne assetTwo := by
  rw [getDirectOrInversePrice, getDirectOrInversePrice, hdirect, hinverse]

/-- The search of more adapters finds what it found before. -/
theorem getPriceFromAdapters_append {adapters others : List Address} {price : ℕ}
    (hfound : getPriceFromAdapters feeds assetOne assetTwo adapters = .ok (some price)) :
    getPriceFromAdapters feeds assetOne assetTwo (adapters ++ others) = .ok (some price) := by
  induction adapters with
  | nil => simp [getPriceFromAdapters, pure_eq_ok] at hfound
  | cons adapter adapters ih =>
      simp only [List.cons_append, getPriceFromAdapters, bind_eq_ok] at hfound ⊢
      obtain ⟨found, hadapter, hrest⟩ := hfound
      refine ⟨found, hadapter, ?_⟩
      cases found with
      | some first => exact hrest
      | none => exact ih hrest

/-- A price that is found stays while its sources do. -/
theorem getPrice_extended {assets : List Address} (hsame : SameSources assets oracle next)
    (hone : assetOne ∈ assets) (htwo : assetTwo ∈ assets)
    (hmaster : oracle.masterQuoteAsset ∈ assets) :
    Extended (getPrice feeds controller oracle sender assetOne assetTwo)
      (getPrice feeds controller next sender assetOne assetTwo) := by
  have hpair : ∀ one ∈ assets, ∀ two ∈ assets, getDirectOrInversePrice feeds next one two =
      getDirectOrInversePrice feeds oracle one two := fun one hmem two hother =>
    getDirectOrInversePrice_congr (hsame.oracles one hmem two hother)
      (hsame.oracles two hother one hmem)
  have hquoted : getPriceFromMasterQuote feeds next assetOne assetTwo =
      getPriceFromMasterQuote feeds oracle assetOne assetTwo := by
    rw [getPriceFromMasterQuote, getPriceFromMasterQuote, hsame.masterQuoteAsset,
      hpair assetOne hone _ hmaster, hpair assetTwo htwo _ hmaster]
  intro price hprice
  simp only [getPrice, bind_eq_ok, hsame.controllerAddress, hpair assetOne hone assetTwo htwo,
    hquoted] at hprice ⊢
  obtain ⟨_, hsystem, direct, hdirect, quoted, hfound, last, hlast, hresult⟩ := hprice
  refine ⟨_, hsystem, direct, hdirect, quoted, hfound, last, ?_, hresult⟩
  cases quoted with
  | some found => exact hlast
  | none =>
      cases last with
      | none => cases hresult
      | some found =>
          obtain ⟨others, hothers⟩ := hsame.adapters
          rw [← hothers]
          exact getPriceFromAdapters_append hlast

/-! ### Valuations -/

/-- The valuer asks for prices against the master quote asset only. -/
theorem calculateSetTokenValuation_extended {setToken : SetToken} {quoteAsset : Address}
    (hmaster : next.masterQuoteAsset = oracle.masterQuoteAsset)
    (hprices : ∀ token ∈ quoteAsset :: setToken.components,
      Extended (getPrice feeds controller oracle sender token oracle.masterQuoteAsset)
        (getPrice feeds controller next sender token oracle.masterQuoteAsset)) :
    Extended
      (SetValuer.calculateSetTokenValuation (toOracle feeds controller sender decimals oracle)
        setToken quoteAsset)
      (SetValuer.calculateSetTokenValuation (toOracle feeds controller sender decimals next)
        setToken quoteAsset) := by
  unfold SetValuer.calculateSetTokenValuation
  refine Extended.bind (Extended.foldlM (fun component hcomponent state => ?_) _) fun valuation _ =>
    Extended.bind ?_ fun _ _ => Extended.refl _
  · refine Extended.bind ?_ fun _ _ => Extended.refl _
    unfold SetValuer.componentValuation
    refine Extended.bind ?_ fun _ _ => Extended.refl _
    change Extended _ (getPrice feeds controller next sender component next.masterQuoteAsset)
    rw [hmaster]
    exact hprices component (List.mem_cons_of_mem _ hcomponent)
  · unfold SetValuer.quoteValuation
    change Extended _ (if next.masterQuoteAsset ≠ quoteAsset then _ else _)
    rw [hmaster]
    change Extended (if oracle.masterQuoteAsset ≠ quoteAsset then _ else _) _
    split
    · refine Extended.bind ?_ fun _ _ => Extended.refl _
      change Extended _ (getPrice feeds controller next sender quoteAsset next.masterQuoteAsset)
      rw [hmaster]
      exact hprices quoteAsset List.mem_cons_self
    · exact Extended.refl _

/-! ### Histories -/

/-- A call that touches no pair of these assets, nor the master quote asset, and removes no
adapter. -/
def LeavesSources (assets : List Address) : Call → Prop
  | .addPair _ assetOne assetTwo _ => assetOne ∉ assets ∨ assetTwo ∉ assets
  | .editPair _ assetOne assetTwo _ => assetOne ∉ assets ∨ assetTwo ∉ assets
  | .removePair _ assetOne assetTwo => assetOne ∉ assets ∨ assetTwo ∉ assets
  | .removeAdapter _ _ => False
  | .editMasterQuoteAsset _ _ => False
  | _ => True

theorem sameSources_withPair {assets : List Address} {source : Address}
    (hother : assetOne ∉ assets ∨ assetTwo ∉ assets) :
    SameSources assets oracle (oracle.withPair assetOne assetTwo source) := by
  refine ⟨rfl, rfl, fun one hone two htwo => ?_, List.prefix_refl _⟩
  unfold withPair
  dsimp only
  rcases hother with hother | hother
  · have hne : one ≠ assetOne := fun heq => hother (heq ▸ hone)
    rw [Function.update_of_ne hne]
  · by_cases heq : one = assetOne
    · have hne : two ≠ assetTwo := fun heq => hother (heq ▸ htwo)
      rw [heq, Function.update_self, Function.update_of_ne hne]
    · rw [Function.update_of_ne heq]

theorem perform_sameSources {assets : List Address} {call : Call}
    (hleaves : LeavesSources assets call) (hcall : perform call oracle = .ok next) :
    SameSources assets oracle next := by
  cases call with
  | addPair sender assetOne assetTwo source =>
      simp only [perform, addPair, bind_eq_ok, pure_eq_ok] at hcall
      obtain ⟨_, -, _, -, rfl⟩ := hcall
      exact sameSources_withPair hleaves
  | editPair sender assetOne assetTwo source =>
      simp only [perform, editPair, bind_eq_ok, pure_eq_ok] at hcall
      obtain ⟨_, -, _, -, rfl⟩ := hcall
      exact sameSources_withPair hleaves
  | removePair sender assetOne assetTwo =>
      simp only [perform, removePair, bind_eq_ok, pure_eq_ok] at hcall
      obtain ⟨_, -, _, -, rfl⟩ := hcall
      exact sameSources_withPair hleaves
  | addAdapter sender adapter =>
      simp only [perform, addAdapter, bind_eq_ok, pure_eq_ok] at hcall
      obtain ⟨_, -, _, -, rfl⟩ := hcall
      exact ⟨rfl, rfl, fun _ _ _ _ => rfl, List.prefix_append _ _⟩
  | removeAdapter sender adapter => exact hleaves.elim
  | editMasterQuoteAsset sender newMasterQuoteAsset => exact hleaves.elim
  | transferOwnership sender newOwner =>
      simp only [perform, transferOwnership, bind_eq_ok, pure_eq_ok] at hcall
      obtain ⟨_, -, _, -, rfl⟩ := hcall
      exact ⟨rfl, rfl, fun _ _ _ _ => rfl, List.prefix_refl _⟩
  | renounceOwnership sender =>
      simp only [perform, renounceOwnership, bind_eq_ok, pure_eq_ok] at hcall
      obtain ⟨_, -, rfl⟩ := hcall
      exact ⟨rfl, rfl, fun _ _ _ _ => rfl, List.prefix_refl _⟩

theorem run_sameSources {assets : List Address} {calls : List Call}
    (hleaves : ∀ call ∈ calls, LeavesSources assets call) :
    SameSources assets oracle (run perform calls oracle) :=
  run_preserves (SameSources assets oracle)
    (fun call hmem _ _ hsame hcall =>
      hsame.trans (perform_sameSources (hleaves call hmem) hcall))
    (SameSources.refl assets oracle)

/-- Two assets quoted against asset 1, the second one in the reverse direction, and asset 1
against itself. -/
def twoPairs : PriceOracle where
  owner := 7
  controllerAddress := 8
  oracles one two :=
    if one = 10 ∧ two = 1 then 100
    else if one = 1 ∧ two = 11 then 101
    else if one = 1 ∧ two = 1 then 99 else zeroAddress
  masterQuoteAsset := 1
  adapters := []

def twoFeeds : Feeds where
  read source :=
    if source = 99 then .ok (10 ^ 18)
    else if source = 100 then .ok (3 * 10 ^ 18) else .ok (7 * 10 ^ 18)
  getPrice _ _ _ := .ok none

def systemController : Controller :=
  { Controller.deploy 1 2 with isModule := fun module => module == 5 }

/-- Another pair, an adapter and a new owner. -/
def someGovernance : List Call :=
  [.addPair 7 20 1 102, .addAdapter 7 60, .editPair 7 20 1 103, .transferOwnership 7 9,
    .removePair 9 20 1]

/-- Every pair has the master quote asset on one side, and of two different assets one
direction has an oracle. -/
structure HubAndSpoke (oracle : PriceOracle) : Prop where
  spoke : ∀ one two, oracle.oracles one two ≠ zeroAddress →
    one = oracle.masterQuoteAsset ∨ two = oracle.masterQuoteAsset
  one_way : ∀ one two, one ≠ two → oracle.oracles one two ≠ zeroAddress →
    oracle.oracles two one = zeroAddress

def Listed (oracle : PriceOracle) (asset : Address) : Prop :=
  oracle.oracles asset oracle.masterQuoteAsset ≠ zeroAddress ∨
    oracle.oracles oracle.masterQuoteAsset asset ≠ zeroAddress

/-- What an asset is worth in the master quote asset. -/
def worth (feeds : Feeds) (oracle : PriceOracle) (asset : Address) : ℕ :=
  if asset = oracle.masterQuoteAsset then preciseUnit
  else
    match getDirectOrInversePrice feeds oracle asset oracle.masterQuoteAsset with
    | .ok (some price) => price
    | _ => 0

theorem worth_master : worth feeds oracle oracle.masterQuoteAsset = preciseUnit := if_pos rfl

theorem worth_of_found {asset : Address} {price : ℕ} (hother : asset ≠ oracle.masterQuoteAsset)
    (hfound : getDirectOrInversePrice feeds oracle asset oracle.masterQuoteAsset =
      .ok (some price)) : worth feeds oracle asset = price := by
  rw [worth, if_neg hother, hfound]

theorem getDirectOrInversePrice_of_direct
    (hdirect : oracle.oracles assetOne assetTwo ≠ zeroAddress) :
    getDirectOrInversePrice feeds oracle assetOne assetTwo = (do
      let price ← feeds.read (oracle.oracles assetOne assetTwo)
      pure (some price)) := if_pos hdirect

theorem getDirectOrInversePrice_of_inverse
    (hdirect : oracle.oracles assetOne assetTwo = zeroAddress)
    (hinverse : oracle.oracles assetTwo assetOne ≠ zeroAddress) :
    getDirectOrInversePrice feeds oracle assetOne assetTwo = (do
      let price ← calculateInversePrice feeds (oracle.oracles assetTwo assetOne)
      pure (some price)) := by
  rw [getDirectOrInversePrice, if_neg (not_not.mpr hdirect), if_pos hinverse]

/-- The price of a pair and that of the reverse pair, out of one oracle. -/
theorem reverse_mul_le {price reverse : ℕ}
    (hone_way : oracle.oracles assetTwo assetOne = zeroAddress)
    (hdirect : oracle.oracles assetOne assetTwo ≠ zeroAddress)
    (hprice : getDirectOrInversePrice feeds oracle assetOne assetTwo = .ok (some price))
    (hreverse : getDirectOrInversePrice feeds oracle assetTwo assetOne = .ok (some reverse)) :
    price * reverse ≤ preciseUnit * preciseUnit := by
  rw [getDirectOrInversePrice_of_direct hdirect] at hprice
  rw [getDirectOrInversePrice_of_inverse hone_way hdirect] at hreverse
  simp only [bind_eq_ok, pure_eq_ok, Option.some.injEq, exists_eq_right, calculateInversePrice,
    preciseDiv_eq_ok] at hprice hreverse
  obtain ⟨value, hvalue, -, -, rfl⟩ := hreverse
  obtain rfl := Except.ok.inj (hprice.symm.trans hvalue)
  exact Nat.mul_div_le _ _

theorem found_of_listed {found : Option ℕ}
    (hpair : oracle.oracles assetOne assetTwo ≠ zeroAddress ∨
      oracle.oracles assetTwo assetOne ≠ zeroAddress)
    (hcall : getDirectOrInversePrice feeds oracle assetOne assetTwo = .ok found) :
    ∃ price, found = some price := by
  by_cases hdirect : oracle.oracles assetOne assetTwo = zeroAddress
  · have hinverse := hpair.resolve_left (not_not.mpr hdirect)
    rw [getDirectOrInversePrice_of_inverse hdirect hinverse, bind_eq_ok] at hcall
    obtain ⟨price, -, hfound⟩ := hcall
    exact ⟨price, (pure_eq_ok.mp hfound).symm⟩
  · rw [getDirectOrInversePrice_of_direct hdirect, bind_eq_ok] at hcall
    obtain ⟨price, -, hfound⟩ := hcall
    exact ⟨price, (pure_eq_ok.mp hfound).symm⟩

/-- A pair of its own, or a price by way of the master quote asset: no adapter is asked. -/
theorem getPrice_cases {price : ℕ}
    (hone : assetOne = oracle.masterQuoteAsset ∨ Listed oracle assetOne)
    (htwo : assetTwo = oracle.masterQuoteAsset ∨ Listed oracle assetTwo)
    (hne : assetOne ≠ assetTwo)
    (hprice : getPrice feeds controller oracle sender assetOne assetTwo = .ok price) :
    ((oracle.oracles assetOne assetTwo ≠ zeroAddress ∨
        oracle.oracles assetTwo assetOne ≠ zeroAddress) ∧
      getDirectOrInversePrice feeds oracle assetOne assetTwo = .ok (some price)) ∨
    0 < worth feeds oracle assetTwo ∧
      price * worth feeds oracle assetTwo ≤ preciseUnit * worth feeds oracle assetOne := by
  simp only [getPrice, bind_eq_ok] at hprice
  obtain ⟨_, -, direct, hdirect, quoted, hquoted, last, hlast, hresult⟩ := hprice
  by_cases hpair : oracle.oracles assetOne assetTwo ≠ zeroAddress ∨
      oracle.oracles assetTwo assetOne ≠ zeroAddress
  · left
    obtain ⟨found, rfl⟩ := found_of_listed hpair hdirect
    obtain rfl := pure_eq_ok.mp hquoted
    obtain rfl := pure_eq_ok.mp hlast
    obtain rfl := pure_eq_ok.mp hresult
    exact ⟨hpair, hdirect⟩
  · right
    have hunpaired := not_or.mp hpair
    have hotherOne : assetOne ≠ oracle.masterQuoteAsset := by
      rintro rfl
      rcases htwo with heq | hlisted
      · exact hne heq.symm
      · exact hlisted.elim hunpaired.2 hunpaired.1
    have hotherTwo : assetTwo ≠ oracle.masterQuoteAsset := by
      rintro rfl
      rcases hone with heq | hlisted
      · exact hne heq
      · exact hlisted.elim hunpaired.1 hunpaired.2
    have hnone : direct = none := by
      rw [getDirectOrInversePrice, if_neg hunpaired.1, if_neg hunpaired.2] at hdirect
      exact (pure_eq_ok.mp hdirect).symm
    subst hnone
    simp only [orElse, getPriceFromMasterQuote, bind_eq_ok] at hquoted
    obtain ⟨foundOne, hfoundOne, foundTwo, hfoundTwo, hquote⟩ := hquoted
    obtain ⟨priceOne, rfl⟩ := found_of_listed (hone.resolve_left hotherOne) hfoundOne
    obtain ⟨priceTwo, rfl⟩ := found_of_listed (htwo.resolve_left hotherTwo) hfoundTwo
    simp only [bind_eq_ok, preciseDiv_eq_ok, pure_eq_ok] at hquote
    obtain ⟨_, ⟨-, hdivisor, rfl⟩, rfl⟩ := hquote
    obtain rfl := pure_eq_ok.mp hlast
    obtain rfl := pure_eq_ok.mp hresult
    rw [worth_of_found hotherOne hfoundOne, worth_of_found hotherTwo hfoundTwo,
      Nat.mul_comm preciseUnit]
    exact ⟨hdivisor, Nat.div_mul_le_self _ _⟩

/-- A pair of its own has the master quote asset on one side. -/
theorem HubAndSpoke.master_of_pair (hhub : HubAndSpoke oracle)
    (hpair : oracle.oracles assetOne assetTwo ≠ zeroAddress ∨
      oracle.oracles assetTwo assetOne ≠ zeroAddress) :
    assetOne = oracle.masterQuoteAsset ∨ assetTwo = oracle.masterQuoteAsset := by
  rcases hpair with hdirect | hinverse
  · exact hhub.spoke _ _ hdirect
  · exact (hhub.spoke _ _ hinverse).symm

/-- No price exceeds what the assets are worth in the master quote asset. -/
theorem price_mul_worth_le {price : ℕ} (hhub : HubAndSpoke oracle)
    (hone : assetOne = oracle.masterQuoteAsset ∨ Listed oracle assetOne)
    (htwo : assetTwo = oracle.masterQuoteAsset ∨ Listed oracle assetTwo)
    (hne : assetOne ≠ assetTwo)
    (hprice : getPrice feeds controller oracle sender assetOne assetTwo = .ok price) :
    price * worth feeds oracle assetTwo ≤ preciseUnit * worth feeds oracle assetOne := by
  rcases getPrice_cases hone htwo hne hprice with ⟨hpair, hfound⟩ | ⟨-, hquoted⟩
  · rcases hhub.master_of_pair hpair with rfl | rfl
    · rw [worth_master, worth, if_neg hne.symm]
      split
      · next reverse hreverse =>
        rcases hpair with hdirect | hinverse
        · exact reverse_mul_le (hhub.one_way _ _ hne hdirect) hdirect hfound hreverse
        · rw [Nat.mul_comm]
          exact reverse_mul_le (hhub.one_way _ _ hne.symm hinverse) hinverse hreverse hfound
      · exact Nat.zero_le _
    · rw [worth_master, worth_of_found hne hfound, Nat.mul_comm]
  · exact hquoted

/-- An asset that is worth nothing buys nothing. -/
theorem price_of_worthless {price : ℕ} (hhub : HubAndSpoke oracle)
    (hone : assetOne = oracle.masterQuoteAsset ∨ Listed oracle assetOne)
    (htwo : assetTwo = oracle.masterQuoteAsset ∨ Listed oracle assetTwo)
    (hne : assetOne ≠ assetTwo) (hworthless : worth feeds oracle assetOne = 0)
    (hprice : getPrice feeds controller oracle sender assetOne assetTwo = .ok price) :
    price = 0 := by
  rcases getPrice_cases hone htwo hne hprice with ⟨hpair, hfound⟩ | ⟨hpositive, hquoted⟩
  · rcases hhub.master_of_pair hpair with rfl | rfl
    · rw [worth_master] at hworthless
      exact absurd hworthless preciseUnit_pos.ne'
    · rw [worth_of_found hne hfound] at hworthless
      exact hworthless
  · rw [hworthless, Nat.mul_zero, Nat.le_zero, Nat.mul_eq_zero] at hquoted
    exact hquoted.resolve_right hpositive.ne'

/-- An amount converted from asset to asset at the prices of the oracle. -/
def convertAlong (feeds : Feeds) (controller : Controller) (oracle : PriceOracle)
    (sender : Address) : Address → List Address → ℕ → Outcome ℕ
  | _, [], amount => pure amount
  | asset, following :: path, amount => do
      let price ← getPrice feeds controller oracle sender asset following
      let converted ← preciseMul amount price
      convertAlong feeds controller oracle sender following path converted

theorem convertAlong_zero {asset : Address} {path : List Address} {back : ℕ}
    (hcall : convertAlong feeds controller oracle sender asset path 0 = .ok back) :
    back = 0 := by
  induction path generalizing asset with
  | nil => exact (pure_eq_ok.mp hcall).symm
  | cons following path ih =>
      simp only [convertAlong, bind_eq_ok, preciseMul_eq_ok, Nat.zero_mul, Nat.zero_div]
        at hcall
      obtain ⟨_, -, _, ⟨-, rfl⟩, hrest⟩ := hcall
      exact ih hrest

theorem worth_of_convertAlong {asset : Address} {path : List Address} {amount back : ℕ}
    (hhub : HubAndSpoke oracle)
    (hlisted : ∀ token ∈ asset :: path,
      token = oracle.masterQuoteAsset ∨ Listed oracle token)
    (hchain : (asset :: path).IsChain (· ≠ ·))
    (hcall : convertAlong feeds controller oracle sender asset path amount = .ok back) :
    back * worth feeds oracle (path.getLastD asset) ≤ amount * worth feeds oracle asset := by
  induction path generalizing asset amount with
  | nil =>
      obtain rfl := pure_eq_ok.mp hcall
      exact le_rfl
  | cons following path ih =>
      simp only [convertAlong, bind_eq_ok, preciseMul_eq_ok] at hcall
      obtain ⟨price, hprice, converted, ⟨-, rfl⟩, hrest⟩ := hcall
      have hstep := price_mul_worth_le hhub (hlisted asset List.mem_cons_self)
        (hlisted following (List.mem_cons_of_mem _ List.mem_cons_self))
        (List.isChain_cons_cons.mp hchain).1 hprice
      have hafter := ih (fun token htoken => hlisted token (List.mem_cons_of_mem _ htoken))
        (List.isChain_cons_cons.mp hchain).2 hrest
      rw [List.getLastD_cons]
      refine hafter.trans (Nat.le_of_mul_le_mul_right ?_ preciseUnit_pos)
      calc amount * price / preciseUnit * worth feeds oracle following * preciseUnit
          = amount * price / preciseUnit * preciseUnit * worth feeds oracle following :=
            Nat.mul_right_comm _ _ _
        _ ≤ amount * price * worth feeds oracle following :=
            Nat.mul_le_mul_right _ (Nat.div_mul_le_self _ _)
        _ = amount * (price * worth feeds oracle following) := Nat.mul_assoc _ _ _
        _ ≤ amount * (preciseUnit * worth feeds oracle asset) :=
            Nat.mul_le_mul_left _ hstep
        _ = amount * worth feeds oracle asset * preciseUnit := by ring

/-- Along any path the worth of an amount never grows, and around a cycle the amount does
not. -/
theorem conversions_never_gain {asset : Address} {path : List Address} {amount back : ℕ}
    (hhub : HubAndSpoke oracle)
    (hlisted : ∀ token ∈ asset :: path,
      token = oracle.masterQuoteAsset ∨ Listed oracle token)
    (hchain : (asset :: path).IsChain (· ≠ ·))
    (hcall : convertAlong feeds controller oracle sender asset path amount = .ok back) :
    back * worth feeds oracle (path.getLastD asset) ≤ amount * worth feeds oracle asset ∧
      (path.getLastD asset = asset → back ≤ amount) := by
  have hworth := worth_of_convertAlong hhub hlisted hchain hcall
  refine ⟨hworth, fun hcycle => ?_⟩
  rcases Nat.eq_zero_or_pos (worth feeds oracle asset) with hworthless | hpositive
  · cases path with
    | nil => exact (pure_eq_ok.mp hcall).ge
    | cons following path =>
        simp only [convertAlong, bind_eq_ok, preciseMul_eq_ok] at hcall
        obtain ⟨price, hprice, _, ⟨-, rfl⟩, hrest⟩ := hcall
        -- the first conversion leaves nothing
        obtain rfl := price_of_worthless hhub (hlisted asset List.mem_cons_self)
          (hlisted following (List.mem_cons_of_mem _ List.mem_cons_self))
          (List.isChain_cons_cons.mp hchain).1 hworthless hprice
        rw [Nat.mul_zero, Nat.zero_div] at hrest
        exact (convertAlong_zero hrest).le.trans (Nat.zero_le _)
  · rw [hcycle] at hworth
    exact Nat.le_of_mul_le_mul_right hworth hpositive

theorem hubAndSpoke_twoPairs : HubAndSpoke twoPairs where
  spoke := by
    intro one two hpair
    by_contra hneither
    obtain ⟨hone, htwo⟩ := not_or.mp hneither
    exact hpair (by simp_all [twoPairs])
  one_way := by
    intro one two hne hpair
    simp only [twoPairs] at hpair ⊢
    split_ifs at hpair ⊢ <;> simp_all

theorem conversions_never_gain_twoPairs :
    Returns (convertAlong twoFeeds systemController twoPairs 5 10 [11, 1, 10] (5 * 10 ^ 18))
      fun back => back ≤ 5 * 10 ^ 18 := by
  have hcall : Returns
      (convertAlong twoFeeds systemController twoPairs 5 10 [11, 1, 10] (5 * 10 ^ 18))
        fun _ => True := by
    decide +kernel
  obtain ⟨back, hback, -⟩ := returns_iff.mp hcall
  refine returns_iff.mpr ⟨back, hback, ?_⟩
  exact (conversions_never_gain hubAndSpoke_twoPairs (by simp [Listed, twoPairs, zeroAddress])
    (by decide) hback).2 rfl

end PriceOracle

end SetProtocol
