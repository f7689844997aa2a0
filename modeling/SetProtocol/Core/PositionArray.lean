import SetProtocol.Core.PositionHistory
import SetProtocol.Core.PositionList
import SetProtocol.Library.Filling

/-!
# The array of positions

`getPositions` counts the positions first, and then writes them into an array of that size.
Both loops agree, so that no write is out of bounds and no entry stays blank.  After any
history of edits the array says all that there is to know of the positions.
-/

namespace SetProtocol.PositionArray

open Transaction PreciseUnitMath SetToken

variable {setToken : SetToken} {component module : Address}

/-- An unchecked increment. -/
def increment (count : ℕ) : ℕ := (count + 1) % (maxUint256 + 1)

/-- Body of the loop of `_getPositionCount`. -/
def countPositions (setToken : SetToken) (positionCount : ℕ) (component : Address) :
    Outcome ℕ :=
  let positionCount :=
    if 0 < setToken.defaultPositionVirtualUnit component then increment positionCount
    else positionCount
  let externalModules := setToken.getExternalPositionModules component
  if 0 < externalModules.length then SafeMath.add positionCount externalModules.length
  else pure positionCount

def getPositionCount (setToken : SetToken) : Outcome ℕ :=
  setToken.components.foldlM (countPositions setToken) 0

/-- What memory is initialized with. -/
def blankPosition : Position := ⟨zeroAddress, zeroAddress, 0, .DEFAULT, []⟩

def writePosition (positions : Filling Position) (position : Position) :
    Outcome (Filling Position) :=
  positions.push "invalid opcode" position

/-- Body of the outer loop. -/
def writePositions (setToken : SetToken) (positions : Filling Position)
    (component : Address) : Outcome (Filling Position) := do
  let positions ← (
    if 0 < setToken.defaultPositionVirtualUnit component then do
      let unit ← setToken.getDefaultPositionRealUnit component
      writePosition positions ⟨component, zeroAddress, unit, .DEFAULT, []⟩
    else pure positions)
  (setToken.getExternalPositionModules component).foldlM (fun positions currentModule => do
    let position ← setToken.getExternalPosition component currentModule
    writePosition positions position) positions

def getPositions (setToken : SetToken) : Outcome (List Position) := do
  let size ← getPositionCount setToken
  let positions ← setToken.components.foldlM (writePositions setToken)
    (Filling.empty blankPosition size)
  pure positions.entries

/-! ## The array and the list -/

/-- How many positions a component has. -/
def width (setToken : SetToken) (component : Address) : ℕ :=
  (if 0 < setToken.defaultPositionVirtualUnit component then 1 else 0) +
    (setToken.getExternalPositionModules component).length

/-- The positions of one component. -/
def componentPositions (setToken : SetToken) (component : Address) :
    Outcome (List Position) := do
  let default ← setToken.getDefaultPositions component
  let external ← (setToken.getExternalPositionModules component).mapM
    (setToken.getExternalPosition component)
  pure (default ++ external)

theorem getPositions_eq : setToken.getPositions = (do
    let lists ← setToken.components.mapM (componentPositions setToken)
    pure lists.flatten) := rfl

theorem countPositions_eq {positionCount : ℕ}
    (hfits : positionCount + width setToken component ≤ maxUint256) :
    countPositions setToken positionCount component =
      .ok (positionCount + width setToken component) := by
  unfold width at hfits ⊢
  have hincremented : (if 0 < setToken.defaultPositionVirtualUnit component then
      increment positionCount else positionCount) = positionCount +
        if 0 < setToken.defaultPositionVirtualUnit component then 1 else 0 := by
    split
    · next hpositive =>
      rw [if_pos hpositive] at hfits
      exact Nat.mod_eq_of_lt (by omega)
    · rfl
  rw [countPositions, hincremented]
  by_cases hexternal : 0 < (setToken.getExternalPositionModules component).length
  · rw [if_pos hexternal]
    exact SafeMath.add_eq_ok.mpr ⟨by omega, Nat.add_assoc _ _ _⟩
  · rw [if_neg hexternal, Nat.eq_zero_of_not_pos hexternal, Nat.add_zero]
    rfl

theorem countPositions_foldlM {components : List Address} {positionCount : ℕ}
    (hfits : positionCount + (components.map (width setToken)).sum ≤ maxUint256) :
    components.foldlM (countPositions setToken) positionCount =
      .ok (positionCount + (components.map (width setToken)).sum) := by
  induction components generalizing positionCount with
  | nil => rfl
  | cons component components ih =>
      rw [List.map_cons, List.sum_cons, ← Nat.add_assoc] at hfits ⊢
      rw [List.foldlM_cons, countPositions_eq (by omega), ok_bind, ih hfits]

theorem length_of_componentPositions {positions : List Position}
    (hcall : componentPositions setToken component = .ok positions) :
    positions.length = width setToken component := by
  simp only [componentPositions, bind_eq_ok, pure_eq_ok] at hcall
  obtain ⟨default, hdefault, external, hexternal, rfl⟩ := hcall
  have hmodules := map_of_mapM_eq_ok (fun _ => ()) (fun _ => ()) (fun _ _ _ _ => rfl) hexternal
  have hlength := congrArg List.length hmodules
  rw [List.length_map, List.length_map] at hlength
  rw [List.length_append, hlength, width]
  congr 1
  unfold getDefaultPositions at hdefault
  split at hdefault
  · next hpositive =>
    simp only [bind_eq_ok, pure_eq_ok] at hdefault
    obtain ⟨unit, -, rfl⟩ := hdefault
    exact (if_pos hpositive).symm
  · next hnone =>
    obtain rfl := pure_eq_ok.mp hdefault
    exact (if_neg hnone).symm

theorem writePositions_eq {size : ℕ} {before : List Position}
    (hroom : before.length + width setToken component ≤ size) :
    writePositions setToken (Filling.holding blankPosition size before) component = (do
      let more ← componentPositions setToken component
      pure (Filling.holding blankPosition size (before ++ more))) := by
  unfold width at hroom
  have hmodules : ∀ written : List Position,
      written.length + (setToken.getExternalPositionModules component).length ≤ size →
      (setToken.getExternalPositionModules component).foldlM (fun positions currentModule => do
          let position ← setToken.getExternalPosition component currentModule
          writePosition positions position) (Filling.holding blankPosition size written) = (do
        let external ← (setToken.getExternalPositionModules component).mapM
          (setToken.getExternalPosition component)
        pure (Filling.holding blankPosition size (written ++ external))) :=
    fun written hwritten => Filling.foldlM_push hwritten
  rw [writePositions, componentPositions, getDefaultPositions]
  split
  · next hpositive =>
    rw [if_pos hpositive] at hroom
    cases setToken.getDefaultPositionRealUnit component with
    | error reason => rfl
    | ok unit =>
        simp only [ok_bind, pure_bind, bind_assoc, writePosition]
        rw [Filling.push_holding _ (by omega), ok_bind]
        have hnext := hmodules (before ++ [⟨component, zeroAddress, unit, .DEFAULT, []⟩]) (by
          rw [List.length_append, List.length_singleton]
          omega)
        simp only [writePosition] at hnext
        rw [hnext]
        simp only [List.append_assoc]
  · next hnone =>
    rw [if_neg hnone] at hroom
    simp only [pure_bind, bind_assoc, List.nil_append]
    exact hmodules before (by omega)

/-- The loops of the array compute the list. -/
theorem getPositions_eq_list
    (hfits : (setToken.components.map (width setToken)).sum ≤ maxUint256) :
    getPositions setToken = setToken.getPositions := by
  have hcounted : getPositionCount setToken =
      .ok (setToken.components.map (width setToken)).sum := by
    rw [getPositionCount, countPositions_foldlM (by rwa [Nat.zero_add]), Nat.zero_add]
  have hfilled : setToken.components.foldlM (writePositions setToken)
      (Filling.holding blankPosition (setToken.components.map (width setToken)).sum []) = (do
        let lists ← setToken.components.mapM (componentPositions setToken)
        pure (Filling.holding blankPosition (setToken.components.map (width setToken)).sum
          ([] ++ lists.flatten))) :=
    Filling.foldlM_fills (fun _ _ _ => writePositions_eq)
      (fun _ _ _ => length_of_componentPositions) (by rw [List.length_nil, Nat.zero_add])
  rw [getPositions, hcounted, ok_bind, Filling.empty_eq_holding, hfilled, getPositions_eq]
  cases hlists : setToken.components.mapM (componentPositions setToken) with
  | error reason => rfl
  | ok lists =>
      have hwidths := map_of_mapM_eq_ok (width setToken) List.length
        (fun _ _ _ => length_of_componentPositions) hlists
      have hfull : ([] ++ lists.flatten).length =
          (setToken.components.map (width setToken)).sum := by
        rw [List.nil_append, List.length_flatten, hwidths]
      rw [ok_bind, pure_bind, ok_bind, Filling.entries_of_full hfull, List.nil_append]

/-! ## What the array says -/

/-- What tells a position from the others. -/
def key (position : Position) : Address × PositionState × Address :=
  (position.component, position.positionState, position.module)

/-- The units that the positions list for a component, all together. -/
def listedUnits (positions : List Position) (component : Address) : ℤ :=
  ((positions.filter fun position => position.component = component).map
    fun position => position.unit).sum

theorem component_of_entriesOf {entry : Position} (hentry : entry ∈ setToken.entriesOf component) :
    entry.component = component := by
  rcases List.mem_append.mp hentry with hdefault | hexternal
  · split at hdefault
    · rw [List.mem_singleton.mp hdefault]
      rfl
    · exact absurd hdefault List.not_mem_nil
  · obtain ⟨module, -, rfl⟩ := List.mem_map.mp hexternal
    rfl

theorem nodup_keys (hkept : Bookkept setToken) :
    ((setToken.components.flatMap setToken.entriesOf).map key).Nodup := by
  rw [List.map_flatMap, List.nodup_flatMap]
  constructor
  · intro component _
    rw [entriesOf, List.map_append, List.nodup_append]
    refine ⟨?_, ?_, ?_⟩
    · split <;> simp
    · rw [List.map_map]
      refine (hkept.positions component).modules.nodup.map fun first second hsame => ?_
      exact congrArg (fun key : Address × PositionState × Address => key.2.2) hsame
    · intro first hfirst second hsecond
      obtain ⟨default, hdefault, rfl⟩ := List.mem_map.mp hfirst
      obtain ⟨external, hexternal, rfl⟩ := List.mem_map.mp hsecond
      obtain ⟨module, -, rfl⟩ := List.mem_map.mp hexternal
      split at hdefault
      · rw [List.mem_singleton.mp hdefault]
        simp [key, defaultEntry, externalEntry]
      · exact absurd hdefault List.not_mem_nil
  · refine hkept.components.nodup.imp fun {first second} hne => ?_
    rw [Function.onFun, List.disjoint_left]
    intro shared hfirst hsecond
    obtain ⟨entry, hentry, rfl⟩ := List.mem_map.mp hfirst
    obtain ⟨other, hother, hsame⟩ := List.mem_map.mp hsecond
    have hcomponents := congrArg (fun key : Address × PositionState × Address => key.1) hsame
    change other.component = entry.component at hcomponents
    rw [component_of_entriesOf hentry, component_of_entriesOf hother] at hcomponents
    exact hne hcomponents.symm

/-- All units that the list is made of can be read. -/
theorem units_of_getPositions {positions : List Position}
    (hcall : setToken.getPositions = .ok positions) (hcomponent : component ∈ setToken.components) :
    (0 < setToken.defaultPositionVirtualUnit component →
        ∃ unit, setToken.getDefaultPositionRealUnit component = .ok unit) ∧
      ∀ module ∈ setToken.getExternalPositionModules component,
        ∃ unit, setToken.getExternalPositionRealUnit component module = .ok unit := by
  simp only [getPositions_eq, bind_eq_ok] at hcall
  obtain ⟨lists, hlists, -⟩ := hcall
  obtain ⟨entries, hentries⟩ := ok_of_mapM_eq_ok hlists hcomponent
  simp only [componentPositions, bind_eq_ok] at hentries
  obtain ⟨default, hdefault, external, hexternal, -⟩ := hentries
  refine ⟨fun hpositive => ?_, fun module hmodule => ?_⟩
  · rw [getDefaultPositions, if_pos hpositive, bind_eq_ok] at hdefault
    obtain ⟨unit, hunit, -⟩ := hdefault
    exact ⟨unit, hunit⟩
  · obtain ⟨entry, hentry⟩ := ok_of_mapM_eq_ok hexternal hmodule
    rw [getExternalPosition, bind_eq_ok] at hentry
    obtain ⟨unit, hunit, -⟩ := hentry
    exact ⟨unit, hunit⟩

theorem default_listed_iff (hkept : Bookkept setToken) {positions : List Position}
    (hcall : setToken.getPositions = .ok positions) {unit : ℤ} {data : Bytes} :
    (⟨component, module, unit, .DEFAULT, data⟩ : Position) ∈ positions ↔
      module = zeroAddress ∧ data = [] ∧ unit ≠ 0 ∧
        setToken.getDefaultPositionRealUnit component = .ok unit := by
  rw [getPositions_eq_ok hcall]
  constructor
  · intro hmem
    obtain ⟨other, hother, hentry⟩ := List.mem_flatMap.mp hmem
    obtain rfl : component = other := component_of_entriesOf hentry
    rcases List.mem_append.mp hentry with hdefault | hexternal
    · split at hdefault
      · next hpositive =>
        obtain ⟨value, hvalue⟩ := (units_of_getPositions hcall hother).1 hpositive
        have hsame := List.mem_singleton.mp hdefault
        have hunit : unit = value :=
          (congrArg Position.unit hsame).trans (getDefaultPositionRealUnit_eq_ok hvalue).symm
        refine ⟨congrArg Position.module hsame, congrArg Position.data hsame, ?_,
          hunit ▸ hvalue⟩
        rw [hunit, ne_eq, ← Int.sign_eq_zero_iff_zero, hkept.sign_of_default hvalue,
          Int.sign_eq_zero_iff_zero]
        exact hpositive.ne'
      · exact absurd hdefault List.not_mem_nil
    · obtain ⟨module, -, hsame⟩ := List.mem_map.mp hexternal
      exact absurd (congrArg Position.positionState hsame) (by simp [externalEntry])
  · rintro ⟨rfl, rfl, hnonzero, hunit⟩
    have hsign := hkept.sign_of_default hunit
    have hpositive : 0 < setToken.defaultPositionVirtualUnit component := by
      refine lt_of_le_of_ne (hkept.positions component).default_nonneg fun hnone => ?_
      rw [← hnone, Int.sign_zero, Int.sign_eq_zero_iff_zero] at hsign
      exact hnonzero hsign
    rw [getDefaultPositionRealUnit_eq_ok hunit]
    exact defaultEntry_mem ((hkept.components.mem_iff component).mpr (Or.inl hpositive)) hpositive

theorem external_listed_iff (hkept : Bookkept setToken) {positions : List Position}
    (hcall : setToken.getPositions = .ok positions) {unit : ℤ} {data : Bytes} :
    (⟨component, module, unit, .EXTERNAL, data⟩ : Position) ∈ positions ↔
      unit ≠ 0 ∧ setToken.getExternalPositionRealUnit component module = .ok unit ∧
        ((setToken.componentPositions component).externalPositions module).data = data := by
  rw [getPositions_eq_ok hcall]
  constructor
  · intro hmem
    obtain ⟨other, hother, hentry⟩ := List.mem_flatMap.mp hmem
    obtain rfl : component = other := component_of_entriesOf hentry
    rcases List.mem_append.mp hentry with hdefault | hexternal
    · split at hdefault
      · have hsame := congrArg Position.positionState (List.mem_singleton.mp hdefault)
        exact absurd hsame (by simp [defaultEntry])
      · exact absurd hdefault List.not_mem_nil
    · obtain ⟨listed, hlisted, hsame⟩ := List.mem_map.mp hexternal
      obtain rfl : listed = module := congrArg Position.module hsame
      obtain ⟨value, hvalue⟩ := (units_of_getPositions hcall hother).2 listed hlisted
      obtain ⟨-, hreal⟩ := convertVirtualToRealUnit_eq_ok.mp hvalue
      have hunit : unit = value := (congrArg Position.unit hsame).symm.trans hreal
      refine ⟨?_, hunit ▸ hvalue, congrArg Position.data hsame⟩
      rw [hunit, ne_eq, ← Int.sign_eq_zero_iff_zero, hkept.sign_of_external hvalue,
        Int.sign_eq_zero_iff_zero]
      exact hkept.mem_externalPositionModules.mp hlisted
  · rintro ⟨hnonzero, hunit, rfl⟩
    have hsign := hkept.sign_of_external hunit
    have hmodule : module ∈ setToken.getExternalPositionModules component := by
      rw [hkept.mem_externalPositionModules, ne_eq, ← Int.sign_eq_zero_iff_zero, ← hsign,
        Int.sign_eq_zero_iff_zero]
      exact hnonzero
    obtain ⟨-, rfl⟩ := convertVirtualToRealUnit_eq_ok.mp hunit
    exact externalEntry_mem
      ((hkept.components.mem_iff component).mpr (Or.inr (List.ne_nil_of_mem hmodule))) hmodule

theorem filter_entries {components : List Address} (hnodup : components.Nodup) :
    (components.flatMap setToken.entriesOf).filter
        (fun position => position.component = component) =
      if component ∈ components then setToken.entriesOf component else [] := by
  induction components with
  | nil => rfl
  | cons first rest ih =>
      obtain ⟨hfirst, hrest⟩ := List.nodup_cons.mp hnodup
      rw [List.flatMap_cons, List.filter_append, ih hrest]
      by_cases heq : first = component
      · subst heq
        have hall : (setToken.entriesOf first).filter
            (fun position => position.component = first) = setToken.entriesOf first :=
          List.filter_eq_self.mpr fun entry hentry => by
            simpa using component_of_entriesOf hentry
        rw [hall, if_neg hfirst, if_pos List.mem_cons_self, List.append_nil]
      · have hnone : (setToken.entriesOf first).filter
            (fun position => position.component = component) = [] :=
          List.filter_eq_nil_iff.mpr fun entry hentry => by
            simpa [component_of_entriesOf hentry] using heq
        have hmem : component ∈ first :: rest ↔ component ∈ rest := by
          simp [Ne.symm heq]
        rw [hnone, List.nil_append]
        simp only [hmem]

theorem totalUnits_of_foldlM {modules : List Address} {defaultUnits total : ℤ}
    (hcall : modules.foldlM (fun totalUnits module => do
      let unit ← setToken.getExternalPositionRealUnit component module
      SignedSafeMath.add totalUnits unit) defaultUnits = .ok total) :
    total = defaultUnits +
      (modules.map fun module => (setToken.externalEntry component module).unit).sum := by
  induction modules generalizing defaultUnits with
  | nil =>
      obtain rfl := pure_eq_ok.mp hcall
      simp
  | cons module modules ih =>
      simp only [List.foldlM_cons, bind_eq_ok, SignedSafeMath.add_eq_ok] at hcall
      obtain ⟨_, ⟨unit, hunit, -, rfl⟩, hrest⟩ := hcall
      obtain ⟨-, rfl⟩ := convertVirtualToRealUnit_eq_ok.mp hunit
      rw [ih hrest, List.map_cons, List.sum_cons, ← add_assoc]
      rfl

/-- The units listed for a component add up to its total. -/
theorem listedUnits_eq_total (hkept : Bookkept setToken) {positions : List Position} {total : ℤ}
    (hcall : setToken.getPositions = .ok positions)
    (htotal : setToken.getTotalComponentRealUnits component = .ok total) :
    listedUnits positions component = total := by
  simp only [getTotalComponentRealUnits, bind_eq_ok] at htotal
  obtain ⟨defaultUnits, hdefault, hfold⟩ := htotal
  rw [totalUnits_of_foldlM hfold, getDefaultPositionRealUnit_eq_ok hdefault, listedUnits,
    getPositions_eq_ok hcall, filter_entries hkept.components.nodup]
  have hnone : ¬0 < setToken.defaultPositionVirtualUnit component →
      realUnit setToken.positionMultiplier
        (setToken.defaultPositionVirtualUnit component) = 0 := by
    intro hnonpos
    have hzero : setToken.defaultPositionVirtualUnit component = 0 :=
      le_antisymm (not_lt.mp hnonpos) (hkept.positions component).default_nonneg
    rw [hzero, realUnit, zero_mul, Int.zero_ediv]
  split
  · rw [entriesOf, List.map_append, List.sum_append, List.map_map]
    congr 1
    split
    · exact List.sum_singleton
    · next hnonpos => exact (hnone hnonpos).symm
  · next habsent =>
    have hmissing := mt (hkept.components.mem_iff component).mpr habsent
    obtain ⟨hnonpos, hmodules⟩ := not_or.mp hmissing
    rw [hnone hnonpos, getExternalPositionModules, not_not.mp hmodules]
    rfl

/-- After any history of edits, the array that `getPositions` fills lists each position that
is not zero exactly once, with the unit and the data that the getters return, and its units
add up to the total of each component. -/
theorem listing_of_history {controller registered : Controller} {setToken : SetToken}
    {creator setTokenAddress manager : Address} {components modules : List Address}
    {units : List ℤ}
    (hcreate : SetTokenCreator.create controller creator setTokenAddress components
      units modules manager = .ok (registered, setToken))
    (calls : List (Controller × PositionHistory.PositionCall)) {positions : List Position}
    (hfits : ((run PositionHistory.perform calls setToken).components.map
      (width (run PositionHistory.perform calls setToken))).sum ≤ maxUint256)
    (hcall : getPositions (run PositionHistory.perform calls setToken) = .ok positions) :
    let final := run PositionHistory.perform calls setToken
    (positions.map key).Nodup ∧
      (∀ component module unit data,
        (⟨component, module, unit, .DEFAULT, data⟩ : Position) ∈ positions ↔
          module = zeroAddress ∧ data = [] ∧ unit ≠ 0 ∧
            final.getDefaultPositionRealUnit component = .ok unit) ∧
      (∀ component module unit data,
        (⟨component, module, unit, .EXTERNAL, data⟩ : Position) ∈ positions ↔
          unit ≠ 0 ∧ final.getExternalPositionRealUnit component module = .ok unit ∧
            ((final.componentPositions component).externalPositions module).data = data) ∧
      ∀ component total, final.getTotalComponentRealUnits component = .ok total →
        listedUnits positions component = total := by
  intro final
  have hkept : Bookkept final := (PositionHistory.bookkept_of_history hcreate calls).1
  rw [getPositions_eq_list hfits] at hcall
  refine ⟨?_, fun component module unit data => default_listed_iff hkept hcall,
    fun component module unit data => external_listed_iff hkept hcall,
    fun component total => listedUnits_eq_total hkept hcall⟩
  rw [getPositions_eq_ok hcall]
  exact nodup_keys hkept

/-- The second component is also borrowed through a module. -/
def borrowing : List (Controller × PositionHistory.PositionCall) :=
  [(PositionHistory.smallController, .initializeModule 5),
    (PositionHistory.smallController, .editExternalPosition 5 11 5 (-2) [1]),
    (PositionHistory.smallController, .editDefaultPosition 5 10 0)]

theorem listing_of_borrowing :
    let final := run PositionHistory.perform borrowing (SetToken.deploy [10, 11] [3, 4] [5] 7)
    ∃ positions, getPositions final = .ok positions ∧ (positions.map key).Nodup ∧
      (⟨11, zeroAddress, 4, .DEFAULT, []⟩ : Position) ∈ positions ∧
      (⟨11, 5, -2, .EXTERNAL, [1]⟩ : Position) ∈ positions ∧ listedUnits positions 11 = 2 := by
  intro final
  have hcreate : SetTokenCreator.create PositionHistory.smallController 3 9 [10, 11] [3, 4] [5]
      7 = .ok (_, SetToken.deploy [10, 11] [3, 4] [5] 7) := rfl
  obtain ⟨positions, hcall⟩ := returns_iff.mp (by decide +kernel :
    Returns (getPositions (run PositionHistory.perform borrowing
      (SetToken.deploy [10, 11] [3, 4] [5] 7))) fun _ => True)
  obtain ⟨hnodup, hdefault, hexternal, htotal⟩ :=
    listing_of_history hcreate borrowing (by decide +kernel) hcall.1
  refine ⟨positions, hcall.1, hnodup, (hdefault 11 zeroAddress 4 []).mpr ⟨rfl, rfl, ?_⟩,
    (hexternal 11 5 (-2) [1]).mpr ⟨by decide, ?_⟩, ?_⟩
  · exact ⟨by decide, by decide +kernel⟩
  · exact ⟨by decide +kernel, by decide +kernel⟩
  · exact htotal 11 2 (by decide +kernel)

end SetProtocol.PositionArray
