import SetProtocol.Registry.Controller
import Mathlib.Data.Set.Finite.Basic
import Mathlib.Data.Set.Finite.Lemmas
import Mathlib.Order.Interval.Set.Infinite

/-!
# Consistency of the Controller's registries

Each of the four registries is an array next to a flag map, and the resources
carry a map from identifiers on top.  The calls that add one entry check that it
is new, but `initialize` takes its arrays as they are, and `addResource` accepts
the zero address that also marks an unused identifier.  These two are the only
ways to break the registries: a run keeps them consistent exactly when none of
its returning calls does either.
-/

namespace SetProtocol.ControllerRegistry

open Transaction FlaggedList

/-- A transaction sent to the Controller. -/
inductive ControllerCall
  | initializeController (sender : Address)
      (factories modules resources : List Address) (resourceIds : List ℕ)
  | addSet (sender setToken : Address)
  | removeSet (sender setToken : Address)
  | addFactory (sender factory : Address)
  | removeFactory (sender factory : Address)
  | addModule (sender module : Address)
  | removeModule (sender module : Address)
  | addResource (sender resource : Address) (id : ℕ)
  | removeResource (sender : Address) (id : ℕ)

def perform : ControllerCall → Controller → Outcome Controller
  | .initializeController sender factories modules resources resourceIds =>
      fun controller =>
        controller.initializeController sender factories modules resources resourceIds
  | .addSet sender setToken => fun controller => controller.addSet sender setToken
  | .removeSet sender setToken => fun controller => controller.removeSet sender setToken
  | .addFactory sender factory => fun controller => controller.addFactory sender factory
  | .removeFactory sender factory =>
      fun controller => controller.removeFactory sender factory
  | .addModule sender module => fun controller => controller.addModule sender module
  | .removeModule sender module =>
      fun controller => controller.removeModule sender module
  | .addResource sender resource id =>
      fun controller => controller.addResource sender resource id
  | .removeResource sender id => fun controller => controller.removeResource sender id

/-- Arrays, flags and identifiers describe the same registries. -/
structure RegistryConsistent (controller : Controller) : Prop where
  sets : Agrees controller.sets controller.isSet
  factories : Agrees controller.factories controller.isFactory
  modules : Agrees controller.modules controller.isModule
  resources : Agrees controller.resources controller.isResource
  identified_once : ∀ resource ∈ controller.resources,
    ∃! id, controller.resourceId id = resource
  identified_listed : ∀ id, controller.resourceId id ≠ zeroAddress →
    controller.resourceId id ∈ controller.resources

/-- A call that brings in neither a duplicate nor the zero address as a resource. -/
def WellPosed : ControllerCall → Prop
  | .initializeController _ factories modules resources _ =>
      factories.Nodup ∧ modules.Nodup ∧ resources.Nodup
  | .addResource _ resource _ => resource ≠ zeroAddress
  | _ => True

/-- What holds along a run: consistency, finitely many identifiers in use, and
empty registries before `initialize`. -/
structure RegistryInvariant (controller : Controller) : Prop where
  consistent : RegistryConsistent controller
  supported : {id | controller.resourceId id ≠ zeroAddress}.Finite
  pristine : controller.isInitialized = false →
    controller.factories = [] ∧ controller.modules = [] ∧ controller.resources = []

theorem registryInvariant_deploy (sender feeRecipient : Address) :
    RegistryInvariant (Controller.deploy sender feeRecipient) where
  consistent := {
    sets := Agrees.empty
    factories := Agrees.empty
    modules := Agrees.empty
    resources := Agrees.empty
    identified_once := by simp [Controller.deploy]
    identified_listed := by simp [Controller.deploy] }
  supported := by simp [Controller.deploy]
  pristine := by simp [Controller.deploy]

/-- The zero address is never a listed resource: it stands for every unused
identifier, and there are infinitely many of these. -/
theorem zeroAddress_not_listed {controller : Controller}
    (hunique : ∀ resource ∈ controller.resources,
      ∃! id, controller.resourceId id = resource)
    (hsupported : {id | controller.resourceId id ≠ zeroAddress}.Finite) :
    zeroAddress ∉ controller.resources := by
  intro hlisted
  obtain ⟨own, -, honly⟩ := hunique zeroAddress hlisted
  have hcover : (Set.univ : Set ℕ) ⊆
      {id | controller.resourceId id ≠ zeroAddress} ∪ {own} := by
    intro id _
    by_cases hid : controller.resourceId id = zeroAddress
    · exact Or.inr (honly id hid)
    · exact Or.inl hid
  exact Set.infinite_univ ((hsupported.union (Set.finite_singleton own)).subset hcover)

theorem RegistryInvariant.zeroAddress_not_mem {controller : Controller}
    (hinvariant : RegistryInvariant controller) :
    zeroAddress ∉ controller.resources :=
  zeroAddress_not_listed hinvariant.consistent.identified_once hinvariant.supported

theorem finite_support_update {ids : ℕ → Address} (id : ℕ) (resource : Address)
    (hfinite : {other | ids other ≠ zeroAddress}.Finite) :
    {other | Function.update ids id resource other ≠ zeroAddress}.Finite := by
  apply (hfinite.union (Set.finite_singleton id)).subset
  intro other hother
  by_cases heq : other = id
  · exact Or.inr heq
  · left
    simpa [heq] using hother

/-! ## The batch initializer -/

theorem foldlM_flagAddress {flag next : Address → Bool} {addresses : List Address}
    (hfold : addresses.foldlM Controller.flagAddress flag = .ok next) :
    next = mark flag addresses := by
  induction addresses generalizing flag with
  | nil =>
      rw [List.foldlM_nil, pure_eq_ok] at hfold
      exact hfold.symm
  | cons address addresses ih =>
      simp only [List.foldlM_cons, Controller.flagAddress, bind_eq_ok, require_eq_ok,
        pure_eq_ok, exists_const] at hfold
      obtain ⟨_, ⟨-, rfl⟩, hrest⟩ := hfold
      exact ih hrest

/-- After the loop over the resources, each entry owns its identifier, and no
other identifier changed. -/
theorem foldlM_addInitialResource {flag finalFlag : Address → Bool}
    {ids finalIds : ℕ → Address} {entries : List (Address × ℕ)}
    (hfold : entries.foldlM Controller.addInitialResource (flag, ids) =
      .ok (finalFlag, finalIds)) :
    finalFlag = mark flag (entries.map Prod.fst) ∧
      (∀ entry ∈ entries, ids entry.2 = zeroAddress ∧
        finalIds entry.2 = entry.1 ∧ entry.1 ≠ zeroAddress) ∧
      (∀ id, id ∉ entries.map Prod.snd → finalIds id = ids id) := by
  induction entries generalizing flag ids with
  | nil =>
      rw [List.foldlM_nil, pure_eq_ok, Prod.mk.injEq] at hfold
      obtain ⟨rfl, rfl⟩ := hfold
      simp [mark]
  | cons entry entries ih =>
      simp only [List.foldlM_cons, Controller.addInitialResource, bind_eq_ok,
        require_eq_ok, pure_eq_ok, exists_const] at hfold
      obtain ⟨_, ⟨hnonzero, hunused, rfl⟩, hrest⟩ := hfold
      obtain ⟨hflags, hentries, hothers⟩ := ih hrest
      have hfresh : entry.2 ∉ entries.map Prod.snd := by
        intro hmem
        obtain ⟨other, hother, hid⟩ := List.mem_map.mp hmem
        have hzero := (hentries other hother).1
        rw [hid, Function.update_self] at hzero
        exact hnonzero hzero
      refine ⟨hflags, ?_, ?_⟩
      · intro other hother
        rcases List.mem_cons.mp hother with rfl | hother
        · exact ⟨hunused, by rw [hothers _ hfresh, Function.update_self], hnonzero⟩
        · obtain ⟨hzero, hfinal, hother_nonzero⟩ := hentries other hother
          refine ⟨?_, hfinal, hother_nonzero⟩
          have hne : other.2 ≠ entry.2 := fun heq =>
            hfresh (heq ▸ List.mem_map_of_mem hother)
          rwa [Function.update_of_ne hne] at hzero
      · intro id hid
        rw [List.map_cons, List.mem_cons, not_or] at hid
        rw [hothers id hid.2, Function.update_of_ne hid.1]

/-- What a returning `initialize` leaves behind. -/
theorem initializeController_eq_ok {controller next : Controller} {sender : Address}
    {factories modules resources : List Address} {resourceIds : List ℕ}
    (hcall : controller.initializeController sender factories modules resources
      resourceIds = .ok next) :
    controller.isInitialized = false ∧ resources.length = resourceIds.length ∧
      ∃ isResource resourceId,
        (resources.zip resourceIds).foldlM Controller.addInitialResource
          (controller.isResource, controller.resourceId) =
            .ok (isResource, resourceId) ∧
        next = { controller with
          factories := factories
          modules := modules
          resources := resources
          isFactory := mark controller.isFactory factories
          isModule := mark controller.isModule modules
          isResource := isResource
          resourceId := resourceId
          isInitialized := true } := by
  simp only [Controller.initializeController, Controller.onlyOwner, bind_eq_ok,
    require_eq_ok, pure_eq_ok, exists_const] at hcall
  obtain ⟨-, hfirst, hlength, isFactory, hfactories, isModule, hmodules, maps, hmaps,
    rfl⟩ := hcall
  refine ⟨hfirst, hlength, maps.1, maps.2, hmaps, ?_⟩
  rw [foldlM_flagAddress hfactories, foldlM_flagAddress hmodules]

theorem agrees_mark_of_empty {flag : Address → Bool} {values : List Address}
    (hempty : Agrees [] flag) (hnodup : values.Nodup) : Agrees values (mark flag values) := by
  have hflag : flag = fun _ => false := by
    funext value
    have hvalue := hempty.mem_iff value
    simpa using hvalue
  rw [hflag]
  exact (agrees_mark_iff values).mpr hnodup

theorem initializeController_preserves {controller next : Controller}
    {sender : Address} {factories modules resources : List Address}
    {resourceIds : List ℕ} (hinvariant : RegistryInvariant controller)
    (hfactories : factories.Nodup) (hmodules : modules.Nodup)
    (hresources : resources.Nodup)
    (hcall : controller.initializeController sender factories modules resources
      resourceIds = .ok next) : RegistryInvariant next := by
  obtain ⟨hfirst, hlength, isResource, resourceId, hfold, rfl⟩ :=
    initializeController_eq_ok hcall
  obtain ⟨hnoFactories, hnoModules, hnoResources⟩ := hinvariant.pristine hfirst
  have hconsistent := hinvariant.consistent
  obtain ⟨hflags, hentries, hothers⟩ := foldlM_addInitialResource hfold
  have hunmapped : ∀ id, controller.resourceId id = zeroAddress := by
    intro id
    by_contra hmapped
    have hlisted := hconsistent.identified_listed id hmapped
    rw [hnoResources] at hlisted
    exact List.not_mem_nil hlisted
  have hnames : (resources.zip resourceIds).map Prod.fst = resources :=
    List.map_fst_zip hlength.le
  have hback : ∀ id, resourceId id ≠ zeroAddress →
      (resourceId id, id) ∈ resources.zip resourceIds := by
    intro id hmapped
    have hid : id ∈ (resources.zip resourceIds).map Prod.snd := by
      by_contra hother
      exact hmapped ((hothers id hother).trans (hunmapped id))
    obtain ⟨⟨resource, _⟩, hentry, rfl⟩ := List.mem_map.mp hid
    rw [(hentries _ hentry).2.1]
    exact hentry
  have hlisted : ∀ id, resourceId id ≠ zeroAddress → resourceId id ∈ resources :=
    fun id hmapped => (List.of_mem_zip (hback id hmapped)).1
  have hunique : ∀ resource ∈ resources, ∃! id, resourceId id = resource := by
    intro resource hresource
    rw [← hnames] at hresource
    obtain ⟨⟨_, id⟩, hentry, rfl⟩ := List.mem_map.mp hresource
    obtain ⟨-, howner, hnonzero⟩ := hentries _ hentry
    refine ⟨id, howner, fun other hother => ?_⟩
    -- two identifiers of one resource would list the resource twice
    have hsame := List.inj_on_of_nodup_map (hnames ▸ hresources)
      (hback other (by rw [hother]; exact hnonzero)) hentry hother
    exact congrArg Prod.snd hsame
  have hsupported : {id | resourceId id ≠ zeroAddress}.Finite := by
    apply ((resources.zip resourceIds).map Prod.snd).finite_toSet.subset
    intro id hmapped
    exact List.mem_map.mpr ⟨_, hback id hmapped, rfl⟩
  refine ⟨⟨hconsistent.sets, ?_, ?_, ?_, ?_, hlisted⟩, hsupported, by simp⟩
  · exact agrees_mark_of_empty (hnoFactories ▸ hconsistent.factories) hfactories
  · exact agrees_mark_of_empty (hnoModules ▸ hconsistent.modules) hmodules
  · rw [hnames] at hflags
    simp only [hflags]
    exact agrees_mark_of_empty (hnoResources ▸ hconsistent.resources) hresources
  · exact hunique

/-! ## The calls that add or remove one entry -/

theorem addSet_preserves {controller next : Controller} {sender setToken : Address}
    (hinvariant : RegistryInvariant controller)
    (hcall : controller.addSet sender setToken = .ok next) : RegistryInvariant next := by
  simp only [Controller.addSet, bind_eq_ok, require_eq_ok, pure_eq_ok,
    exists_const] at hcall
  obtain ⟨_, -, _, -, hfresh, rfl⟩ := hcall
  exact ⟨{ hinvariant.consistent with sets := hinvariant.consistent.sets.push hfresh },
    hinvariant.supported, hinvariant.pristine⟩

theorem removeSet_preserves {controller next : Controller} {sender setToken : Address}
    (hinvariant : RegistryInvariant controller)
    (hcall : controller.removeSet sender setToken = .ok next) :
    RegistryInvariant next := by
  simp only [Controller.removeSet, bind_eq_ok, require_eq_ok, pure_eq_ok,
    exists_const, AddressArrayUtils.remove_eq_ok] at hcall
  obtain ⟨_, -, _, -, -, _, ⟨-, rfl⟩, rfl⟩ := hcall
  exact ⟨{ hinvariant.consistent with
    sets := hinvariant.consistent.sets.erase setToken }, hinvariant.supported, hinvariant.pristine⟩

theorem addFactory_preserves {controller next : Controller}
    {sender factory : Address} (hinvariant : RegistryInvariant controller)
    (hcall : controller.addFactory sender factory = .ok next) :
    RegistryInvariant next := by
  simp only [Controller.addFactory, Controller.onlyInitialized, bind_eq_ok,
    require_eq_ok, pure_eq_ok, exists_const] at hcall
  obtain ⟨hready, _, -, hfresh, rfl⟩ := hcall
  exact ⟨{ hinvariant.consistent with
    factories := hinvariant.consistent.factories.push hfresh }, hinvariant.supported,
    by simp [hready]⟩

theorem removeFactory_preserves {controller next : Controller}
    {sender factory : Address} (hinvariant : RegistryInvariant controller)
    (hcall : controller.removeFactory sender factory = .ok next) :
    RegistryInvariant next := by
  simp only [Controller.removeFactory, Controller.onlyInitialized, bind_eq_ok,
    require_eq_ok, pure_eq_ok, exists_const, AddressArrayUtils.remove_eq_ok] at hcall
  obtain ⟨hready, _, -, -, _, ⟨-, rfl⟩, rfl⟩ := hcall
  exact ⟨{ hinvariant.consistent with
    factories := hinvariant.consistent.factories.erase factory }, hinvariant.supported,
    by simp [hready]⟩

theorem addModule_preserves {controller next : Controller}
    {sender module : Address} (hinvariant : RegistryInvariant controller)
    (hcall : controller.addModule sender module = .ok next) :
    RegistryInvariant next := by
  simp only [Controller.addModule, Controller.onlyInitialized, bind_eq_ok,
    require_eq_ok, pure_eq_ok, exists_const] at hcall
  obtain ⟨hready, _, -, hfresh, rfl⟩ := hcall
  exact ⟨{ hinvariant.consistent with
    modules := hinvariant.consistent.modules.push hfresh }, hinvariant.supported,
    by simp [hready]⟩

theorem removeModule_preserves {controller next : Controller}
    {sender module : Address} (hinvariant : RegistryInvariant controller)
    (hcall : controller.removeModule sender module = .ok next) :
    RegistryInvariant next := by
  simp only [Controller.removeModule, Controller.onlyInitialized, bind_eq_ok,
    require_eq_ok, pure_eq_ok, exists_const, AddressArrayUtils.remove_eq_ok] at hcall
  obtain ⟨hready, _, -, -, _, ⟨-, rfl⟩, rfl⟩ := hcall
  exact ⟨{ hinvariant.consistent with
    modules := hinvariant.consistent.modules.erase module }, hinvariant.supported,
    by simp [hready]⟩

/-- What a returning `addResource` checked and wrote. -/
theorem addResource_eq_ok {controller next : Controller} {sender resource : Address}
    {id : ℕ} (hcall : controller.addResource sender resource id = .ok next) :
    controller.isInitialized = true ∧ controller.isResource resource ≠ true ∧
      controller.resourceId id = zeroAddress ∧
      next = { controller with
        isResource := Function.update controller.isResource resource true
        resourceId := Function.update controller.resourceId id resource
        resources := controller.resources ++ [resource] } := by
  simp only [Controller.addResource, Controller.onlyInitialized, bind_eq_ok,
    require_eq_ok, pure_eq_ok, exists_const] at hcall
  obtain ⟨hready, _, -, hfresh, hunused, rfl⟩ := hcall
  exact ⟨hready, hfresh, hunused, rfl⟩

theorem addResource_preserves {controller next : Controller}
    {sender resource : Address} {id : ℕ} (hinvariant : RegistryInvariant controller)
    (hnonzero : resource ≠ zeroAddress)
    (hcall : controller.addResource sender resource id = .ok next) :
    RegistryInvariant next := by
  obtain ⟨hready, hfresh, hunused, rfl⟩ := addResource_eq_ok hcall
  have hconsistent := hinvariant.consistent
  have hnew : resource ∉ controller.resources := fun hmem =>
    hfresh ((hconsistent.resources.mem_iff resource).mpr hmem)
  have hunmapped : ∀ other, controller.resourceId other ≠ resource := by
    intro other hother
    apply hnew
    rw [← hother]
    exact hconsistent.identified_listed other (hother ▸ hnonzero)
  refine ⟨{ hconsistent with
    resources := hconsistent.resources.push hfresh
    identified_once := ?_
    identified_listed := ?_ }, finite_support_update id resource hinvariant.supported,
    by simp [hready]⟩
  · intro listed hlisted
    rcases List.mem_append.mp hlisted with hold | hlast
    · obtain ⟨own, hown, honly⟩ := hconsistent.identified_once listed hold
      have hne : listed ≠ resource := fun heq => hnew (heq ▸ hold)
      have hother : own ≠ id := by
        rintro rfl
        exact hinvariant.zeroAddress_not_mem (hunused ▸ hown ▸ hold)
      refine ⟨own, by simp [hother, hown], fun other hvalue => ?_⟩
      by_cases heq : other = id
      · subst heq
        simp only [Function.update_self] at hvalue
        exact absurd hvalue.symm hne
      · exact honly other (by simpa [heq] using hvalue)
    · rw [List.mem_singleton] at hlast
      subst hlast
      refine ⟨id, by simp, fun other hvalue => ?_⟩
      by_contra heq
      exact hunmapped other (by simpa [heq] using hvalue)
  · intro other hmapped
    by_cases heq : other = id
    · simp [heq]
    · simp only [Function.update_of_ne heq] at hmapped ⊢
      exact List.mem_append_left _ (hconsistent.identified_listed other hmapped)

theorem removeResource_preserves {controller next : Controller}
    {sender : Address} {id : ℕ} (hinvariant : RegistryInvariant controller)
    (hcall : controller.removeResource sender id = .ok next) :
    RegistryInvariant next := by
  simp only [Controller.removeResource, Controller.onlyInitialized, bind_eq_ok,
    require_eq_ok, pure_eq_ok, exists_const, AddressArrayUtils.remove_eq_ok] at hcall
  obtain ⟨hready, _, -, hmapped, _, ⟨hlisted, rfl⟩, rfl⟩ := hcall
  have hconsistent := hinvariant.consistent
  have hnodup := hconsistent.resources.nodup
  refine ⟨{ hconsistent with
    resources := hconsistent.resources.erase (controller.resourceId id)
    identified_once := ?_
    identified_listed := ?_ },
    finite_support_update id zeroAddress hinvariant.supported, by simp [hready]⟩
  · intro listed hstays
    obtain ⟨hne, hold⟩ := hnodup.mem_erase_iff.mp hstays
    obtain ⟨own, hown, honly⟩ := hconsistent.identified_once listed hold
    have hother : own ≠ id := fun heq => hne (heq ▸ hown.symm)
    refine ⟨own, by simp [hother, hown], fun other hvalue => ?_⟩
    by_cases heq : other = id
    · subst heq
      simp only [Function.update_self] at hvalue
      exact absurd (hvalue ▸ hold) hinvariant.zeroAddress_not_mem
    · exact honly other (by simpa [heq] using hvalue)
  · intro other hstays
    have heq : other ≠ id := by
      rintro rfl
      simp at hstays
    simp only [Function.update_of_ne heq] at hstays ⊢
    refine hnodup.mem_erase_iff.mpr ⟨fun hsame => heq ?_,
      hconsistent.identified_listed other hstays⟩
    -- a resource under two identifiers
    exact (hconsistent.identified_once _ hlisted).unique hsame rfl

/-! ## Runs -/

theorem perform_preserves {call : ControllerCall} {controller next : Controller}
    (hposed : WellPosed call) (hinvariant : RegistryInvariant controller)
    (hcall : perform call controller = .ok next) : RegistryInvariant next := by
  cases call with
  | initializeController sender factories modules resources resourceIds =>
      obtain ⟨hfactories, hmodules, hresources⟩ := hposed
      exact initializeController_preserves hinvariant hfactories hmodules hresources hcall
  | addSet sender setToken => exact addSet_preserves hinvariant hcall
  | removeSet sender setToken => exact removeSet_preserves hinvariant hcall
  | addFactory sender factory => exact addFactory_preserves hinvariant hcall
  | removeFactory sender factory => exact removeFactory_preserves hinvariant hcall
  | addModule sender module => exact addModule_preserves hinvariant hcall
  | removeModule sender module => exact removeModule_preserves hinvariant hcall
  | addResource sender resource id => exact addResource_preserves hinvariant hposed hcall
  | removeResource sender id => exact removeResource_preserves hinvariant hcall

/-- A returning call that leaves consistent registries was well posed. -/
theorem wellPosed_of_consistent {call : ControllerCall} {controller next : Controller}
    (hinvariant : RegistryInvariant controller)
    (hcall : perform call controller = .ok next)
    (hnext : RegistryConsistent next) : WellPosed call := by
  cases call with
  | initializeController sender factories modules resources resourceIds =>
      obtain ⟨-, -, isResource, resourceId, -, rfl⟩ := initializeController_eq_ok hcall
      exact ⟨hnext.factories.nodup, hnext.modules.nodup, hnext.resources.nodup⟩
  | addResource sender resource id =>
      obtain ⟨-, -, -, rfl⟩ := addResource_eq_ok hcall
      rintro rfl
      exact zeroAddress_not_listed hnext.identified_once
        (finite_support_update id zeroAddress hinvariant.supported) (by simp)
  | addSet | removeSet | addFactory | removeFactory | addModule | removeModule
  | removeResource => trivial

/-- The registries stay consistent throughout a run exactly when every call that
returns is well posed: no duplicates in the arrays given to `initialize`, and no
zero address given to `addResource`. -/
theorem registry_consistent_iff (owner feeRecipient : Address)
    (calls : List ControllerCall) :
    (∀ earlier, earlier <+: calls →
      RegistryConsistent (run perform earlier (Controller.deploy owner feeRecipient))) ↔
    ∀ earlier call, earlier ++ [call] <+: calls → ∀ next,
      perform call (run perform earlier (Controller.deploy owner feeRecipient)) =
        .ok next → WellPosed call := by
  constructor
  · intro hconsistent
    -- the invariant at the end of an initial part, by induction on that part
    have hinvariant : ∀ earlier, earlier <+: calls →
        RegistryInvariant
          (run perform earlier (Controller.deploy owner feeRecipient)) := by
      intro earlier hearlier
      induction earlier using List.reverseRecOn with
      | nil => exact registryInvariant_deploy owner feeRecipient
      | append_singleton before call ih =>
          have hbefore := ih ((List.prefix_append before [call]).trans hearlier)
          have hafter := hconsistent _ hearlier
          rw [run_append, run_cons, run_nil] at hafter ⊢
          cases hcall : perform call
              (run perform before (Controller.deploy owner feeRecipient)) with
          | error reason => rwa [settle_of_error hcall]
          | ok next =>
              rw [settle_of_ok hcall] at hafter ⊢
              exact perform_preserves
                (wellPosed_of_consistent hbefore hcall hafter) hbefore hcall
    intro earlier call hinitial next hcall
    have hafter := hconsistent _ hinitial
    rw [run_append, run_cons, run_nil, settle_of_ok hcall] at hafter
    exact wellPosed_of_consistent
      (hinvariant earlier ((List.prefix_append earlier [call]).trans hinitial)) hcall hafter
  · intro hposed earlier hearlier
    exact (run_preserves_of_returning RegistryInvariant
      (fun call state next => perform_preserves)
      (registryInvariant_deploy owner feeRecipient) hposed hearlier).consistent

/-- The owner initializes with one module listed twice and removes it: the array
still lists a module whose flag is down. -/
theorem registry_inconsistent_after_duplicate :
    ¬∀ calls, RegistryConsistent (run perform calls (Controller.deploy 1 2)) := by
  intro hall
  have hmodules := (hall [.initializeController 1 [] [7, 7] [] [],
    .removeModule 1 7]).modules
  have hlisted := (hmodules.mem_iff 7).mpr (by decide)
  revert hlisted
  decide

end SetProtocol.ControllerRegistry
