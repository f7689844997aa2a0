import SetProtocol.Core.SetTokenCreator

/-!
# Histories of position edits

Modules edit the positions and the multiplier of a SetToken in any order, under
whatever modules the manager and the Controller have enabled by then.  The
bookkeeping stays in order throughout, so none of the edits ever fails over the
lists themselves.
-/

namespace SetProtocol.PositionHistory

open Transaction Index PreciseUnitMath

/-- An edit made by a module, or a step of module management. -/
inductive PositionCall
  | editDefaultPosition (sender component : Address) (newUnit : ℕ)
  | editExternalPosition (sender component module : Address) (newUnit : ℤ)
      (data : Bytes)
  | editPositionMultiplier (sender : Address) (newMultiplier : ℤ)
  | addModule (sender module : Address)
  | initializeModule (sender : Address)
  | removePendingModule (sender module : Address)
  | setManager (sender manager : Address)
  | lock (sender : Address)
  | unlock (sender : Address)

/-- A call is made under the Controller as it stands at that time. -/
def perform : Controller × PositionCall → SetToken → Outcome SetToken
  | (controller, .editDefaultPosition sender component newUnit) => fun setToken =>
      Position.editDefaultPosition setToken controller sender component newUnit
  | (controller, .editExternalPosition sender component module newUnit data) =>
      fun setToken => Position.editExternalPosition setToken controller sender component
        module newUnit data
  | (controller, .editPositionMultiplier sender newMultiplier) => fun setToken =>
      setToken.editPositionMultiplier controller sender newMultiplier
  | (controller, .addModule sender module) => fun setToken =>
      setToken.addModule controller sender module
  | (_, .initializeModule sender) => fun setToken => setToken.initializeModule sender
  | (_, .removePendingModule sender module) => fun setToken =>
      setToken.removePendingModule sender module
  | (_, .setManager sender manager) => fun setToken =>
      setToken.setManager sender manager
  | (controller, .lock sender) => fun setToken => setToken.lock controller sender
  | (controller, .unlock sender) => fun setToken => setToken.unlock controller sender

/-- The reverts that would mean that a list had gone out of step. -/
def IndexReason (reason : String) : Prop :=
  reason = "Must not be component" ∨ reason = "Module already added" ∨
    reason = "Address not in array." ∨
    reason = "External positions must be 0 to remove component"

instance (reason : String) : Decidable (IndexReason reason) :=
  inferInstanceAs (Decidable (_ ∨ _))

/-- A call that never reverts because a list is out of step. -/
abbrev InStep {A : Type} (call : Outcome A) : Prop :=
  RevertsOnly (fun reason => ¬IndexReason reason) call

/-! ## Reverts of the single steps -/

section Reasons

variable {setToken : SetToken} {controller : Controller}
variable {sender component module : Address}

theorem inStep_of_arithmetic {A : Type} {call : Outcome A} (hcall : Arithmetic call) :
    InStep call :=
  hcall.mono (by decide)

theorem inStep_guard : InStep (setToken.onlyModuleWhenLockedOnlyLocker controller sender) :=
  (SetToken.revertsOnly_guard setToken controller sender).mono (by decide)

theorem inStep_virtualToReal (virtualUnit : ℤ) :
    InStep (setToken.convertVirtualToRealUnit virtualUnit) :=
  inStep_of_arithmetic (setToken.arithmetic_convertVirtualToRealUnit virtualUnit)

theorem inStep_realToVirtual (unit : ℤ) :
    InStep (setToken.convertRealToVirtualUnit unit) := by
  refine (inStep_of_arithmetic (arithmetic_conservativePreciseDiv _ _)).bind
    fun virtualUnit _ => ?_
  refine RevertsOnly.ite (fun _ => ?_) fun _ => revertsOnly_pure _
  refine (revertsOnly_require fun _ => by decide).bind fun _ _ => ?_
  refine (inStep_virtualToReal virtualUnit).bind fun _ _ => ?_
  exact (revertsOnly_require fun _ => by decide).bind fun _ _ => revertsOnly_pure _

theorem inStep_addComponent (hnew : component ∉ setToken.components) :
    InStep (setToken.addComponent controller sender component) := by
  refine inStep_guard.bind fun _ _ => ?_
  refine RevertsOnly.bind (revertsOnly_require fun hmem => ?_) fun _ _ => revertsOnly_pure _
  exact absurd (SetToken.isComponent_eq_true.mp (not_not.mp hmem)) hnew

theorem inStep_removeComponent (hmem : component ∈ setToken.components) :
    InStep (setToken.removeComponent controller sender component) :=
  inStep_guard.bind fun _ _ =>
    (AddressArrayUtils.revertsOnly_removeStorage hmem).bind fun _ _ => revertsOnly_pure _

theorem inStep_addExternalPositionModule
    (hnew : module ∉ setToken.getExternalPositionModules component) :
    InStep (setToken.addExternalPositionModule controller sender component module) := by
  refine inStep_guard.bind fun _ _ => ?_
  refine RevertsOnly.bind (revertsOnly_require fun hmem => ?_) fun _ _ => revertsOnly_pure _
  exact absurd (SetToken.isExternalPositionModule_eq_true.mp (not_not.mp hmem)) hnew

theorem inStep_removeExternalPositionModule
    (hmem : module ∈ setToken.getExternalPositionModules component) :
    InStep (setToken.removeExternalPositionModule controller sender component module) :=
  inStep_guard.bind fun _ _ =>
    (AddressArrayUtils.revertsOnly_removeStorage hmem).bind fun _ _ => revertsOnly_pure _

theorem inStep_editDefaultPositionUnit (unit : ℤ) :
    InStep (setToken.editDefaultPositionUnit controller sender component unit) :=
  inStep_guard.bind fun _ _ => (inStep_realToVirtual unit).bind fun _ _ =>
    revertsOnly_pure _

theorem inStep_editExternalPositionUnit (unit : ℤ) :
    InStep (setToken.editExternalPositionUnit controller sender component module unit) :=
  inStep_guard.bind fun _ _ => (inStep_realToVirtual unit).bind fun _ _ =>
    revertsOnly_pure _

theorem inStep_editExternalPositionData (data : Bytes) :
    InStep (setToken.editExternalPositionData controller sender component module data) :=
  inStep_guard.bind fun _ _ => revertsOnly_pure _

/-! ## Reverts of the two editing functions -/

theorem inStep_editDefaultPosition (hkept : Bookkept setToken) (newUnit : ℕ) :
    InStep (Position.editDefaultPosition setToken controller sender component newUnit) := by
  have hlisted := hkept.components.mem_iff component
  refine RevertsOnly.bind ((inStep_virtualToReal _).bind fun _ _ => revertsOnly_pure _)
    fun found hfound => ?_
  simp only [Position.hasDefaultPosition, bind_eq_ok, pure_eq_ok] at hfound
  obtain ⟨unit, hunit, rfl⟩ := hfound
  have hdefault : 0 < unit ↔ 0 < setToken.defaultPositionVirtualUnit component := by
    rw [← Int.sign_eq_one_iff_pos, hkept.sign_of_default hunit, Int.sign_eq_one_iff_pos]
  refine RevertsOnly.bind ?_ fun edited _ => ?_
  · refine RevertsOnly.ite (fun hadd => RevertsOnly.ite (fun hnone => ?_)
      fun _ => revertsOnly_pure _) fun _ => ?_
    · refine inStep_addComponent fun hmem => ?_
      rcases hlisted.mp hmem with hpositive | hexternal
      · exact absurd (hdefault.mpr hpositive) (by simpa using hadd.1)
      · exact hexternal (Position.hasExternalPosition_eq_false.mp hnone)
    · refine RevertsOnly.ite (fun hdrop => RevertsOnly.ite (fun _ => ?_)
        fun _ => revertsOnly_pure _) fun _ => revertsOnly_pure _
      exact inStep_removeComponent
        (hlisted.mpr (Or.inl (hdefault.mp (by simpa using hdrop.1))))
  · exact (inStep_of_arithmetic (SafeCast.arithmetic_toInt256 newUnit)).bind
      fun unit _ => inStep_editDefaultPositionUnit unit

theorem inStep_editExternalPosition (hkept : Bookkept setToken) (newUnit : ℤ)
    (data : Bytes) :
    InStep (Position.editExternalPosition setToken controller sender component module
      newUnit data) := by
  have hlisted := hkept.components.mem_iff component
  refine RevertsOnly.ite (fun _ => ?_) fun _ => ?_
  · refine RevertsOnly.bind ?_ fun added _ => ?_
    · refine RevertsOnly.ite (fun hnew => ?_) fun _ =>
        RevertsOnly.ite (fun hnew => ?_) fun _ => revertsOnly_pure _
      · rw [Bool.eq_false_iff, ne_eq, SetToken.isComponent_eq_true] at hnew
        refine (inStep_addComponent hnew).bind fun listed hadded => ?_
        obtain ⟨-, -, rfl⟩ := SetToken.addComponent_eq_ok.mp hadded
        -- an unlisted component has no external positions
        exact inStep_addExternalPositionModule fun hmem =>
          hnew (hlisted.mpr (Or.inr (List.ne_nil_of_mem hmem)))
      · rw [Bool.eq_false_iff, ne_eq, SetToken.isExternalPositionModule_eq_true] at hnew
        exact inStep_addExternalPositionModule hnew
    · exact (inStep_editExternalPositionUnit newUnit).bind fun _ _ =>
        inStep_editExternalPositionData data
  · refine (revertsOnly_require fun _ => by decide).bind fun _ _ => ?_
    refine (inStep_virtualToReal _).bind fun unit hunit => ?_
    refine RevertsOnly.ite (fun hnonzero => ?_) fun _ => revertsOnly_pure _
    have hmodule : module ∈ setToken.getExternalPositionModules component := by
      rw [hkept.mem_externalPositionModules, ne_eq, ← Int.sign_eq_zero_iff_zero,
        ← hkept.sign_of_external hunit, Int.sign_eq_zero_iff_zero]
      exact hnonzero
    have hcomponent := hlisted.mpr (Or.inr (List.ne_nil_of_mem hmodule))
    refine (inStep_virtualToReal _).bind fun defaultUnit _ => ?_
    refine RevertsOnly.bind ?_ fun edited hedited => ?_
    · refine RevertsOnly.ite (fun hlast => ?_) fun _ => revertsOnly_pure _
      obtain ⟨only, honly⟩ := List.length_eq_one_iff.mp hlast.2
      rw [honly, List.mem_singleton] at hmodule
      simp only [honly, AddressArrayUtils.readEntry, List.getElem?_cons_zero, ok_bind]
      exact (revertsOnly_require fun hother => absurd hmodule.symm hother).bind
        fun _ _ => inStep_removeComponent hcomponent
    · refine inStep_removeExternalPositionModule ?_
      split at hedited
      · simp only [bind_eq_ok] at hedited
        obtain ⟨_, -, _, -, hcall⟩ := hedited
        obtain ⟨-, -, components, -, rfl⟩ := SetToken.removeComponent_eq_ok hcall
        exact hmodule
      · cases hedited
        exact hmodule

end Reasons

/-! ## Runs -/

theorem perform_preserves (call : Controller × PositionCall) (setToken next : SetToken)
    (hkept : Bookkept setToken) (hcall : perform call setToken = .ok next) :
    Bookkept next := by
  obtain ⟨controller, call⟩ := call
  cases call with
  | editDefaultPosition sender component newUnit => exact hkept.editDefaultPosition hcall
  | editExternalPosition sender component module newUnit data =>
      exact hkept.editExternalPosition hcall
  | editPositionMultiplier sender newMultiplier =>
      exact hkept.editPositionMultiplier hcall
  | addModule sender module =>
      simp only [perform, SetToken.addModule, bind_eq_ok, pure_eq_ok] at hcall
      obtain ⟨_, -, _, -, _, -, rfl⟩ := hcall
      exact hkept.of_same_positions rfl rfl rfl
  | initializeModule sender =>
      simp only [perform, SetToken.initializeModule, bind_eq_ok, pure_eq_ok] at hcall
      obtain ⟨_, -, _, -, rfl⟩ := hcall
      exact hkept.of_same_positions rfl rfl rfl
  | removePendingModule sender module =>
      simp only [perform, SetToken.removePendingModule, bind_eq_ok, pure_eq_ok] at hcall
      obtain ⟨_, -, _, -, _, -, rfl⟩ := hcall
      exact hkept.of_same_positions rfl rfl rfl
  | setManager sender manager =>
      simp only [perform, SetToken.setManager, bind_eq_ok, pure_eq_ok] at hcall
      obtain ⟨_, -, _, -, rfl⟩ := hcall
      exact hkept.of_same_positions rfl rfl rfl
  | lock sender =>
      simp only [perform, SetToken.lock, bind_eq_ok, pure_eq_ok] at hcall
      obtain ⟨_, -, _, -, rfl⟩ := hcall
      exact hkept.of_same_positions rfl rfl rfl
  | unlock sender =>
      simp only [perform, SetToken.unlock, bind_eq_ok, pure_eq_ok] at hcall
      obtain ⟨_, -, _, -, _, -, rfl⟩ := hcall
      exact hkept.of_same_positions rfl rfl rfl

/-- The bookkeeping of a created SetToken is in order after every history of
calls, and no next edit of a position reverts over it. -/
theorem bookkept_of_history {controller registered : Controller} {setToken : SetToken}
    {creator setTokenAddress manager : Address} {components modules : List Address}
    {units : List ℤ}
    (hcreate : SetTokenCreator.create controller creator setTokenAddress components
      units modules manager = .ok (registered, setToken))
    (calls : List (Controller × PositionCall)) :
    Bookkept (run perform calls setToken) ∧
      ∀ latest sender component,
        (∀ newUnit, InStep (Position.editDefaultPosition (run perform calls setToken)
          latest sender component newUnit)) ∧
        ∀ module newUnit data, InStep (Position.editExternalPosition
          (run perform calls setToken) latest sender component module newUnit data) := by
  have hkept : Bookkept (run perform calls setToken) :=
    run_preserves Bookkept (fun call _ => perform_preserves call)
      (SetTokenCreator.bookkept_create hcreate)
  exact ⟨hkept, fun latest sender component =>
    ⟨inStep_editDefaultPosition hkept, fun module => inStep_editExternalPosition hkept⟩⟩

/-- A Controller that knows one factory and one module. -/
def smallController : Controller :=
  { Controller.deploy 1 2 with
    isInitialized := true
    isFactory := fun factory => factory == 3
    isModule := fun module => module == 5 }

/-- The module opens a debt in the second component and closes the default
position of the first. -/
theorem bookkept_of_history_with_debt :
    Bookkept (run perform
      [(smallController, .initializeModule 5),
        (smallController, .editExternalPosition 5 11 5 (-2) []),
        (smallController, .editDefaultPosition 5 10 0)]
      (SetToken.deploy [10, 11] [3, 4] [5] 7)) := by
  have hcreate : SetTokenCreator.create smallController 3 9 [10, 11] [3, 4] [5] 7 =
      .ok (_, SetToken.deploy [10, 11] [3, 4] [5] 7) := rfl
  exact (bookkept_of_history hcreate _).1

end SetProtocol.PositionHistory
