import SetProtocol.Core.Bookkeeping

/-!
# What `getPositions` lists

The list has one entry for the default position of each component, if there is one, and one
for each module with an external position, all in real units.
-/

namespace SetProtocol.SetToken

open Transaction

variable {setToken : SetToken} {component module : Address}

/-- The default entry of a component. -/
def defaultEntry (setToken : SetToken) (component : Address) : Position :=
  ⟨component, zeroAddress,
    realUnit setToken.positionMultiplier (setToken.defaultPositionVirtualUnit component),
    .DEFAULT, []⟩

/-- The entry of a component and a module. -/
def externalEntry (setToken : SetToken) (component module : Address) : Position :=
  ⟨component, module,
    realUnit setToken.positionMultiplier
      (setToken.externalPositionVirtualUnit component module),
    .EXTERNAL, ((setToken.componentPositions component).externalPositions module).data⟩

def entriesOf (setToken : SetToken) (component : Address) : List Position :=
  (if 0 < setToken.defaultPositionVirtualUnit component then
    [setToken.defaultEntry component] else []) ++
      (setToken.getExternalPositionModules component).map (setToken.externalEntry component)

theorem getPositions_eq_ok {positions : List Position}
    (hcall : setToken.getPositions = .ok positions) :
    positions = setToken.components.flatMap setToken.entriesOf := by
  simp only [getPositions, bind_eq_ok, pure_eq_ok] at hcall
  obtain ⟨lists, hlists, rfl⟩ := hcall
  have hentries := map_of_mapM_eq_ok setToken.entriesOf id ?_ hlists
  · rw [List.map_id] at hentries
    rw [hentries, List.flatMap]
  · intro component _ entries hcomponent
    simp only [bind_eq_ok, pure_eq_ok] at hcomponent
    obtain ⟨default, hdefault, external, hexternal, rfl⟩ := hcomponent
    have hmodules := map_of_mapM_eq_ok (setToken.externalEntry component) id ?_ hexternal
    · rw [List.map_id] at hmodules
      rw [id_eq, entriesOf, hmodules]
      congr 1
      unfold getDefaultPositions at hdefault
      split at hdefault
      · rename_i hpositive
        simp only [bind_eq_ok, pure_eq_ok] at hdefault
        obtain ⟨unit, hunit, rfl⟩ := hdefault
        rw [if_pos hpositive, defaultEntry, getDefaultPositionRealUnit_eq_ok hunit]
      · rename_i hnone
        rw [pure_eq_ok] at hdefault
        rw [if_neg hnone, hdefault]
    · intro module _ entry hentry
      simp only [getExternalPosition, getExternalPositionRealUnit, bind_eq_ok,
        convertVirtualToRealUnit_eq_ok, pure_eq_ok] at hentry
      obtain ⟨_, ⟨-, rfl⟩, rfl⟩ := hentry
      rfl

theorem defaultEntry_mem (hmem : component ∈ setToken.components)
    (hpositive : 0 < setToken.defaultPositionVirtualUnit component) :
    setToken.defaultEntry component ∈ setToken.components.flatMap setToken.entriesOf := by
  apply List.mem_flatMap.mpr ⟨component, hmem, _⟩
  rw [entriesOf, if_pos hpositive]
  exact List.mem_append_left _ List.mem_cons_self

theorem externalEntry_mem (hmem : component ∈ setToken.components)
    (hmodule : module ∈ setToken.getExternalPositionModules component) :
    setToken.externalEntry component module ∈
      setToken.components.flatMap setToken.entriesOf :=
  List.mem_flatMap.mpr ⟨component, hmem,
    List.mem_append_right _ (List.mem_map_of_mem hmodule)⟩

end SetProtocol.SetToken
