import SetProtocol.Core.Bookkeeping

/-!
# Creating a SetToken

The `SetTokenCreator` validates the initial positions and registers the new
SetToken.  A SetToken it creates starts with its bookkeeping in order.
-/

namespace SetProtocol.SetTokenCreator

open Transaction Index Rounding PreciseUnitMath

/-- Body of the validation loop over components and units. -/
def validateComponent (entry : Address × ℤ) : Outcome Unit := do
  require (entry.1 ≠ zeroAddress) "Component must not be null address"
  require (0 < entry.2) "Units must be greater than 0"

/-- Deploys a SetToken at `setTokenAddress` and registers it.  `creator` is this
contract, which the Controller knows as a factory. -/
def create (controller : Controller) (creator setTokenAddress : Address)
    (components : List Address) (units : List ℤ) (modules : List Address)
    (manager : Address) : Outcome (Controller × SetToken) := do
  require (0 < components.length) "Must have at least 1 component"
  require (components.length = units.length)
    "Component and unit lengths must be the same"
  let duplicated ← AddressArrayUtils.hasDuplicate components
  require (duplicated = false) "Components must not have a duplicate"
  require (0 < modules.length) "Must have at least 1 module"
  require (manager ≠ zeroAddress) "Manager must not be empty"
  (components.zip units).forM validateComponent
  modules.forM fun module =>
    require (controller.isModule module = true) "Must be enabled module"
  let setToken := SetToken.deploy components units modules manager
  let registered ← controller.addSet creator setTokenAddress
  pure (registered, setToken)

/-- What `create` has checked when it returns. -/
theorem create_eq_ok {controller registered : Controller} {setToken : SetToken}
    {creator setTokenAddress manager : Address} {components modules : List Address}
    {units : List ℤ}
    (hcreate : create controller creator setTokenAddress components units modules
      manager = .ok (registered, setToken)) :
    components.length = units.length ∧ components.Nodup ∧
      (∀ entry ∈ components.zip units, 0 < entry.2) ∧
      setToken = SetToken.deploy components units modules manager := by
  simp only [create, bind_eq_ok, require_eq_ok, exists_const, pure_eq_ok,
    Prod.mk.injEq] at hcreate
  obtain ⟨-, hlength, duplicated, hduplicated, rfl, -, -, _, hentries, -, -, -, -, -,
    rfl⟩ := hcreate
  refine ⟨hlength, (AddressArrayUtils.hasDuplicate_eq_ok_false.mp hduplicated).2, ?_, rfl⟩
  intro entry hentry
  have hvalid := forM_eq_ok.mp hentries entry hentry
  simp only [validateComponent, bind_eq_ok, require_eq_ok, exists_const] at hvalid
  exact hvalid.2

/-- The constructor's loop writes each unit to its component. -/
theorem foldl_positions (positions : Address → ComponentPosition)
    {entries : List (Address × ℤ)} (hnodup : (entries.map Prod.fst).Nodup) :
    (∀ entry ∈ entries,
      entries.foldl (fun positions entry => Function.update positions entry.1
        { positions entry.1 with virtualUnit := entry.2 }) positions entry.1 =
          { positions entry.1 with virtualUnit := entry.2 }) ∧
    ∀ component, component ∉ entries.map Prod.fst →
      entries.foldl (fun positions entry => Function.update positions entry.1
        { positions entry.1 with virtualUnit := entry.2 }) positions component =
          positions component := by
  induction entries generalizing positions with
  | nil => simp
  | cons entry entries ih =>
      rw [List.map_cons, List.nodup_cons] at hnodup
      obtain ⟨hwritten, hothers⟩ := ih (Function.update positions entry.1
        { positions entry.1 with virtualUnit := entry.2 }) hnodup.2
      refine ⟨fun other hother => ?_, fun component hcomponent => ?_⟩
      · rw [List.foldl_cons]
        rcases List.mem_cons.mp hother with rfl | hother
        · rw [hothers _ hnodup.1, Function.update_self]
        · have hne : other.1 ≠ entry.1 := fun heq =>
            hnodup.1 (heq ▸ List.mem_map_of_mem hother)
          rw [hwritten other hother, Function.update_of_ne hne]
      · rw [List.map_cons, List.mem_cons, not_or] at hcomponent
        rw [List.foldl_cons, hothers component hcomponent.2,
          Function.update_of_ne hcomponent.1]

theorem sound_of_default {unit : ℤ} (hunit : 0 ≤ unit) :
    ComponentPosition.Sound preciseUnitInt
      { SetToken.noPosition with virtualUnit := unit } where
  default_nonneg := hunit
  default_sign := by
    simp [realUnit, Int.mul_ediv_cancel _ preciseUnitInt_pos.ne']
  modules := ⟨List.nodup_nil, fun module => by
    simp [SetToken.noPosition, SetToken.noExternalPosition]⟩
  external_sign := fun module => by
    simp [SetToken.noPosition, SetToken.noExternalPosition, realUnit]

/-- A new SetToken lists exactly the components it has a unit of. -/
theorem bookkept_deploy {components modules : List Address} {units : List ℤ}
    {manager : Address} (hlength : components.length = units.length)
    (hnodup : components.Nodup) (hunits : ∀ entry ∈ components.zip units, 0 < entry.2) :
    Bookkept (SetToken.deploy components units modules manager) := by
  have hnames : (components.zip units).map Prod.fst = components :=
    List.map_fst_zip hlength.le
  have hkeys : ((components.zip units).map Prod.fst).Nodup := by
    rw [hnames]
    exact hnodup
  obtain ⟨hwritten, hothers⟩ := foldl_positions (fun _ => SetToken.noPosition) hkeys
  rw [hnames] at hothers
  have hposition : ∀ component, ∃ unit : ℤ, 0 ≤ unit ∧
      (component ∈ components ↔ 0 < unit) ∧
      (SetToken.deploy components units modules manager).componentPositions component =
        { SetToken.noPosition with virtualUnit := unit } := by
    intro component
    by_cases hmem : component ∈ components
    · have hname := hmem
      rw [← hnames] at hname
      obtain ⟨entry, hentry, rfl⟩ := List.mem_map.mp hname
      have hunit := hunits entry hentry
      exact ⟨entry.2, hunit.le, by simp [hmem, hunit], hwritten entry hentry⟩
    · exact ⟨0, le_rfl, by simp [hmem], hothers component hmem⟩
  refine ⟨⟨hnodup, fun component => ?_⟩, fun component => ?_, preciseUnitInt_pos⟩
  · obtain ⟨unit, -, hlisted, hvalue⟩ := hposition component
    rw [hvalue]
    simpa [ComponentPosition.IsPresent, SetToken.noPosition, SetToken.deploy] using hlisted
  · obtain ⟨unit, hunit, -, hvalue⟩ := hposition component
    rw [hvalue]
    exact sound_of_default hunit

theorem bookkept_create {controller registered : Controller} {setToken : SetToken}
    {creator setTokenAddress manager : Address} {components modules : List Address}
    {units : List ℤ}
    (hcreate : create controller creator setTokenAddress components units modules
      manager = .ok (registered, setToken)) : Bookkept setToken := by
  obtain ⟨hlength, hnodup, hunits, rfl⟩ := create_eq_ok hcreate
  exact bookkept_deploy hlength hnodup hunits

end SetProtocol.SetTokenCreator
