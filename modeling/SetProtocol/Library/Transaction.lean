import Mathlib.Data.List.Induction
import Mathlib.Data.List.Nodup
import Mathlib.Logic.Basic
import Mathlib.Order.Basic
import Mathlib.Tactic.Common

/-!
# Transactions that may revert

A call of a contract either returns or reverts with a reason, and a reverting
call leaves the state as it was.  This file fixes that reading once: inversion
lemmas for the `Except` monad, guards, and runs of calls in which the reverting
ones are discarded.
-/

namespace SetProtocol.Transaction

universe u v

variable {E : Type v} {A B S : Type u} {C : Type*}

/-- A sequential composition returns exactly when both halves do. -/
theorem bind_eq_ok {first : Except E A} {next : A → Except E B} {result : B} :
    (first >>= next) = .ok result ↔
      ∃ value, first = .ok value ∧ next value = .ok result := by
  cases first with
  | error reason => simp [bind, Except.bind]
  | ok value => simp [bind, Except.bind]

/-- A sequential composition reverts in its first half, or in its second. -/
theorem bind_eq_error {first : Except E A} {next : A → Except E B} {reason : E} :
    (first >>= next) = .error reason ↔
      first = .error reason ∨
        ∃ value, first = .ok value ∧ next value = .error reason := by
  cases first with
  | error other => simp [bind, Except.bind]
  | ok value => simp [bind, Except.bind]

theorem ok_bind (value : A) (next : A → Except E B) :
    ((Except.ok value : Except E A) >>= next) = next value := rfl

theorem pure_eq_ok {value result : A} :
    (pure value : Except E A) = .ok result ↔ value = result := by
  simp [pure, Except.pure]

theorem pure_ne_error {value : A} {reason : E} :
    (pure value : Except E A) ≠ .error reason := by
  simp [pure, Except.pure]

/-- Another reason for the same failures. -/
theorem mapError_eq_ok {F : Type*} {call : Except E A} {rename : E → F} {result : A} :
    call.mapError rename = .ok result ↔ call = .ok result := by
  cases call with
  | error reason => simp [Except.mapError]
  | ok value => simp [Except.mapError]

/-- The guard `require(condition, reason)`. -/
def require (condition : Prop) [Decidable condition] (reason : E) :
    Except E Unit :=
  if condition then .ok () else .error reason

@[simp]
theorem require_eq_ok {condition : Prop} [Decidable condition] {reason : E}
    {value : Unit} : require condition reason = .ok value ↔ condition := by
  unfold require
  split <;> simp_all

@[simp]
theorem require_eq_error {condition : Prop} [Decidable condition]
    {reason other : E} :
    require condition reason = .error other ↔ ¬condition ∧ reason = other := by
  unfold require
  split <;> simp_all

/-- The call returns, with a result of this kind. -/
def Returns (call : Except E A) (property : A → Prop) : Prop :=
  match call with
  | .ok value => property value
  | .error _ => False

instance (call : Except E A) (property : A → Prop) [DecidablePred property] :
    Decidable (Returns call property) :=
  match call with
  | .ok value => inferInstanceAs (Decidable (property value))
  | .error _ => instDecidableFalse

theorem returns_iff {call : Except E A} {property : A → Prop} :
    Returns call property ↔ ∃ value, call = .ok value ∧ property value := by
  cases call with
  | error reason => simp [Returns]
  | ok value => simp [Returns]

/-- The call reverts for this reason. -/
def Reverts (call : Except E A) (reason : E) : Prop :=
  match call with
  | .ok _ => False
  | .error other => other = reason

instance [DecidableEq E] (call : Except E A) (reason : E) : Decidable (Reverts call reason) :=
  match call with
  | .ok _ => instDecidableFalse
  | .error other => inferInstanceAs (Decidable (other = reason))

theorem reverts_iff {call : Except E A} {reason : E} :
    Reverts call reason ↔ call = .error reason := by
  cases call with
  | error other => simp [Reverts]
  | ok value => simp [Reverts]

theorem exists_error_iff {call : Except E A} :
    (∃ reason, call = .error reason) ↔ ¬∃ value, call = .ok value := by
  cases call with
  | error reason => simp
  | ok value => simp

/-- What a call leaves behind: its result, or the old state if it reverts. -/
def settle (call : S → Except E S) (state : S) : S :=
  match call state with
  | .ok next => next
  | .error _ => state

theorem settle_of_ok {call : S → Except E S} {state next : S}
    (hcall : call state = .ok next) : settle call state = next := by
  simp [settle, hcall]

theorem settle_of_error {call : S → Except E S} {state : S} {reason : E}
    (hcall : call state = .error reason) : settle call state = state := by
  simp [settle, hcall]

/-- The state after a finite sequence of calls, oldest call first. -/
def run (step : C → S → Except E S) (calls : List C) (state : S) : S :=
  calls.foldl (fun current call => settle (step call) current) state

@[simp]
theorem run_nil (step : C → S → Except E S) (state : S) :
    run step [] state = state := rfl

@[simp]
theorem run_cons (step : C → S → Except E S) (call : C) (calls : List C)
    (state : S) :
    run step (call :: calls) state = run step calls (settle (step call) state) :=
  rfl

theorem run_append (step : C → S → Except E S) (first second : List C)
    (state : S) :
    run step (first ++ second) state = run step second (run step first state) := by
  simp [run]

/-- What every returning call keeps, a discarded call keeps as well. -/
theorem settle_preserves {invariant : S → Prop} {call : S → Except E S}
    (hstep : ∀ state next, invariant state → call state = .ok next →
      invariant next)
    {state : S} (hstate : invariant state) : invariant (settle call state) := by
  cases hcall : call state with
  | error reason => rwa [settle_of_error hcall]
  | ok next =>
      rw [settle_of_ok hcall]
      exact hstep state next hstate hcall

/-- The invariant rule: what each returning call of a run keeps holds after the
whole run. -/
theorem run_preserves (invariant : S → Prop) {step : C → S → Except E S}
    {calls : List C}
    (hstep : ∀ call ∈ calls, ∀ state next, invariant state →
      step call state = .ok next → invariant next)
    {state : S} (hstate : invariant state) :
    invariant (run step calls state) := by
  induction calls generalizing state with
  | nil => exact hstate
  | cons call calls ih =>
      rw [run_cons]
      apply ih
      · intro other hother
        exact hstep other (List.mem_cons_of_mem call hother)
      · exact settle_preserves (hstep call List.mem_cons_self) hstate

/-- The invariant rule for runs whose returning calls are allowed in the states they
meet: the invariant then holds after every initial part of the run. -/
theorem run_preserves_of_allowed (invariant : S → Prop) {allowed : C → S → Prop}
    {step : C → S → Except E S}
    (hstep : ∀ call state next, allowed call state → invariant state →
      step call state = .ok next → invariant next)
    {calls : List C} {state : S} (hstate : invariant state)
    (hcalls : ∀ earlier call, earlier ++ [call] <+: calls →
      invariant (run step earlier state) →
      ∀ next, step call (run step earlier state) = .ok next →
        allowed call (run step earlier state))
    {earlier : List C} (hearlier : earlier <+: calls) :
    invariant (run step earlier state) := by
  induction earlier using List.reverseRecOn with
  | nil => exact hstate
  | append_singleton before call ih =>
      have hbefore := ih ((List.prefix_append before [call]).trans hearlier)
      rw [run_append, run_cons, run_nil]
      cases hcall : step call (run step before state) with
      | error reason => rwa [settle_of_error hcall]
      | ok next =>
          rw [settle_of_ok hcall]
          exact hstep call _ next (hcalls before call hearlier hbefore next hcall) hbefore
            hcall

/-- What is asked before each call of a history, call by call. -/
theorem forall_prefix_cons {condition : List C → C → Prop} {first : C} {calls : List C} :
    (∀ earlier call, earlier ++ [call] <+: first :: calls → condition earlier call) ↔
      condition [] first ∧
        ∀ earlier call, earlier ++ [call] <+: calls → condition (first :: earlier) call := by
  constructor
  · exact fun hall => ⟨hall [] first (by simp), fun earlier call hprefix =>
      hall (first :: earlier) call (List.cons_prefix_cons.mpr ⟨rfl, hprefix⟩)⟩
  · rintro ⟨hfirst, hrest⟩ earlier call hprefix
    cases earlier with
    | nil =>
        obtain ⟨rfl, -⟩ := List.cons_prefix_cons.mp hprefix
        exact hfirst
    | cons other earlier =>
        obtain ⟨rfl, hlater⟩ := List.cons_prefix_cons.mp hprefix
        exact hrest earlier call hlater

/-- The invariant rule for runs whose returning calls are of one kind. -/
theorem run_preserves_of_returning (invariant : S → Prop) {allowed : C → Prop}
    {step : C → S → Except E S}
    (hstep : ∀ call state next, allowed call → invariant state →
      step call state = .ok next → invariant next)
    {calls : List C} {state : S} (hstate : invariant state)
    (hcalls : ∀ earlier call, earlier ++ [call] <+: calls → ∀ next,
      step call (run step earlier state) = .ok next → allowed call)
    {earlier : List C} (hearlier : earlier <+: calls) :
    invariant (run step earlier state) :=
  run_preserves_of_allowed invariant hstep hstate
    (fun before call hbefore _ => hcalls before call hbefore) hearlier

/-- The exact condition for a property of all states of a run: each returning call meets
what keeps an invariant behind the property, and what the property needs in turn. -/
theorem run_good_iff (invariant : S → Prop) {good : S → Prop} {allowed : C → S → Prop}
    {step : C → S → Except E S} (hgood : ∀ state, invariant state → good state)
    (hstep : ∀ call state next, allowed call state → invariant state →
      step call state = .ok next → invariant next)
    (hneeded : ∀ call state next, invariant state → step call state = .ok next →
      good next → allowed call state)
    {calls : List C} {state : S} (hstate : invariant state) :
    (∀ earlier, earlier <+: calls → good (run step earlier state)) ↔
      ∀ earlier call, earlier ++ [call] <+: calls → ∀ next,
        step call (run step earlier state) = .ok next →
          allowed call (run step earlier state) := by
  constructor
  · intro hall earlier call hcalls next hcall
    have hallowed : ∀ before other, before ++ [other] <+: calls →
        invariant (run step before state) → ∀ after,
          step other (run step before state) = .ok after →
            allowed other (run step before state) := by
      intro before other hprefix hbefore after hafter
      refine hneeded other _ after hbefore hafter ?_
      have hnext := hall (before ++ [other]) hprefix
      rwa [run_append, run_cons, run_nil, settle_of_ok hafter] at hnext
    exact hallowed earlier call hcalls (run_preserves_of_allowed invariant hstep hstate
      hallowed ((List.prefix_append earlier [call]).trans hcalls)) next hcall
  · intro hcalls earlier hearlier
    exact hgood _ (run_preserves_of_allowed invariant hstep hstate
      (fun before call hprefix _ => hcalls before call hprefix) hearlier)

/-- A loop body run over a list, stopping at the first revert. -/
theorem foldlM_preserves {invariant : S → Prop} {body : S → A → Except E S}
    {items : List A}
    (hbody : ∀ item ∈ items, ∀ state next, invariant state →
      body state item = .ok next → invariant next)
    {state final : S} (hstate : invariant state)
    (hfold : items.foldlM body state = .ok final) : invariant final := by
  induction items generalizing state with
  | nil =>
      rw [List.foldlM_nil, pure_eq_ok] at hfold
      exact hfold ▸ hstate
  | cons item items ih =>
      rw [List.foldlM_cons, bind_eq_ok] at hfold
      obtain ⟨next, hnext, hrest⟩ := hfold
      apply ih _ _ hrest
      · intro other hother
        exact hbody other (List.mem_cons_of_mem item hother)
      · exact hbody item List.mem_cons_self state next hstate hnext

/-- A loop whose body only lowers its accumulator, below a mark that each item
sets: the result lies below every mark. -/
theorem foldlM_within [Preorder S] (within : A → S → Prop)
    {body : S → A → Except E S} {items : List A}
    (hlower : ∀ item low high, low ≤ high → within item high → within item low)
    (hbody : ∀ item ∈ items, ∀ state next, body state item = .ok next →
      next ≤ state ∧ within item next)
    {state final : S} (hfold : items.foldlM body state = .ok final) :
    final ≤ state ∧ ∀ item ∈ items, within item final := by
  induction items generalizing state with
  | nil =>
      rw [List.foldlM_nil, pure_eq_ok] at hfold
      subst hfold
      simp
  | cons item items ih =>
      rw [List.foldlM_cons, bind_eq_ok] at hfold
      obtain ⟨next, hnext, hrest⟩ := hfold
      obtain ⟨hdown, hitem⟩ := hbody item List.mem_cons_self state next hnext
      obtain ⟨hfinal, hitems⟩ := ih
        (fun other hother => hbody other (List.mem_cons_of_mem item hother)) hrest
      refine ⟨hfinal.trans hdown, fun other hother => ?_⟩
      rcases List.mem_cons.mp hother with rfl | hother
      · exact hlower _ _ _ hfinal hitem
      · exact hitems other hother

/-- A loop over distinct keys, each turn of which only changes what is seen under
its own key: after the loop every key shows the effect of its own turn. -/
theorem foldlM_keyed {K V : Type*} (key : A → K) (view : S → K → V)
    (invariant : S → Prop) (effect : A → V → V → Prop) {body : S → A → Except E S}
    {items : List A}
    (hbody : ∀ item ∈ items, ∀ state next, invariant state →
      body state item = .ok next → invariant next ∧
        effect item (view state (key item)) (view next (key item)) ∧
        ∀ other, other ≠ key item → view next other = view state other)
    (hdistinct : (items.map key).Nodup) {state final : S} (hstate : invariant state)
    (hfold : items.foldlM body state = .ok final) :
    invariant final ∧
      (∀ item ∈ items, effect item (view state (key item)) (view final (key item))) ∧
      ∀ other, other ∉ items.map key → view final other = view state other := by
  induction items generalizing state with
  | nil =>
      rw [List.foldlM_nil, pure_eq_ok] at hfold
      subst hfold
      simpa using hstate
  | cons item items ih =>
      rw [List.foldlM_cons, bind_eq_ok] at hfold
      obtain ⟨next, hnext, hrest⟩ := hfold
      rw [List.map_cons, List.nodup_cons] at hdistinct
      obtain ⟨hinvariant, heffect, hframe⟩ :=
        hbody item List.mem_cons_self state next hstate hnext
      obtain ⟨hfinal, heffects, hframes⟩ := ih
        (fun other hother => hbody other (List.mem_cons_of_mem item hother))
        hdistinct.2 hinvariant hrest
      refine ⟨hfinal, fun other hother => ?_, fun other hother => ?_⟩
      · rcases List.mem_cons.mp hother with rfl | hother
        · rw [hframes _ hdistinct.1]
          exact heffect
        · have hne : key other ≠ key item := fun heq =>
            hdistinct.1 (heq ▸ List.mem_map_of_mem hother)
          rw [← hframe _ hne]
          exact heffects other hother
      · rw [List.map_cons, List.mem_cons, not_or] at hother
        rw [hframes other hother.2, hframe other hother.1]

/-- A loop over distinct keys returns if every item is ready for its turn at first, and
no turn takes that away from the items of other keys. -/
theorem foldlM_returns {K : Type*} (key : A → K) (invariant : S → Prop)
    (ready : A → S → Prop) {body : S → A → Except E S} {items : List A}
    (hbody : ∀ item ∈ items, ∀ state, invariant state → ready item state →
      ∃ next, body state item = .ok next ∧ invariant next ∧
        ∀ other, key other ≠ key item → ready other state → ready other next)
    (hdistinct : (items.map key).Nodup) {state : S} (hstate : invariant state)
    (hready : ∀ item ∈ items, ready item state) :
    ∃ final, items.foldlM body state = .ok final := by
  induction items generalizing state with
  | nil => exact ⟨state, rfl⟩
  | cons item items ih =>
      rw [List.map_cons, List.nodup_cons] at hdistinct
      obtain ⟨next, hnext, hinvariant, hkeeps⟩ :=
        hbody item List.mem_cons_self state hstate (hready item List.mem_cons_self)
      obtain ⟨final, hfinal⟩ := ih
        (fun other hother => hbody other (List.mem_cons_of_mem item hother)) hdistinct.2
        hinvariant fun other hother => by
          have hne : key other ≠ key item := fun heq =>
            hdistinct.1 (heq ▸ List.mem_map_of_mem hother)
          exact hkeeps other hne (hready other (List.mem_cons_of_mem item hother))
      exact ⟨final, by rw [List.foldlM_cons, hnext, ok_bind, hfinal]⟩

/-- A loop each turn of which brings something about for its own item, and undoes
nothing of what earlier turns brought about. -/
theorem foldlM_settles {invariant : S → Prop} {settled : A → S → Prop}
    {body : S → A → Except E S} {items : List A}
    (hbody : ∀ item ∈ items, ∀ state next, invariant state →
      body state item = .ok next → invariant next ∧ settled item next ∧
        ∀ other, settled other state → settled other next)
    {state final : S} (hstate : invariant state)
    (hfold : items.foldlM body state = .ok final) :
    invariant final ∧ (∀ item ∈ items, settled item final) ∧
      ∀ other, settled other state → settled other final := by
  induction items generalizing state with
  | nil =>
      rw [List.foldlM_nil, pure_eq_ok] at hfold
      subst hfold
      simpa using hstate
  | cons item items ih =>
      rw [List.foldlM_cons, bind_eq_ok] at hfold
      obtain ⟨next, hnext, hrest⟩ := hfold
      obtain ⟨hnextState, hitem, hkeep⟩ :=
        hbody item List.mem_cons_self state next hstate hnext
      obtain ⟨hfinal, hitems, hkeeps⟩ := ih
        (fun other hother => hbody other (List.mem_cons_of_mem item hother)) hnextState hrest
      refine ⟨hfinal, fun other hother => ?_, fun other hother =>
        hkeeps other (hkeep other hother)⟩
      rcases List.mem_cons.mp hother with rfl | hlater
      · exact hkeeps other hitem
      · exact hitems other hlater

/-- A loop each turn of which appends its own entries to a log. -/
theorem foldlM_appends {L : Type*} {invariant : S → Prop} (log : S → List L)
    (entries : A → List L) {body : S → A → Except E S} {items : List A}
    (hbody : ∀ item ∈ items, ∀ state next, invariant state →
      body state item = .ok next → invariant next ∧ log next = log state ++ entries item)
    {state final : S} (hstate : invariant state)
    (hfold : items.foldlM body state = .ok final) :
    invariant final ∧ log final = log state ++ items.flatMap entries := by
  induction items generalizing state with
  | nil =>
      rw [List.foldlM_nil, pure_eq_ok] at hfold
      subst hfold
      simpa using hstate
  | cons item items ih =>
      rw [List.foldlM_cons, bind_eq_ok] at hfold
      obtain ⟨next, hnext, hrest⟩ := hfold
      obtain ⟨hnextState, hlog⟩ := hbody item List.mem_cons_self state next hstate hnext
      obtain ⟨hfinal, hlogs⟩ := ih
        (fun other hother => hbody other (List.mem_cons_of_mem item hother)) hnextState hrest
      refine ⟨hfinal, ?_⟩
      rw [hlogs, hlog, List.flatMap_cons, List.append_assoc]

/-- A loop whose turns each bring a fact about with their own items, and never undo it. -/
theorem foldlM_collects {body : S → A → Except E S} {items : List A} (holds : S → Prop)
    (brings : A → Prop)
    (hbody : ∀ item ∈ items, ∀ state next, body state item = .ok next →
      (holds next ↔ holds state ∨ brings item))
    {state final : S} (hfold : items.foldlM body state = .ok final) :
    holds final ↔ holds state ∨ ∃ item ∈ items, brings item := by
  induction items generalizing state with
  | nil =>
      rw [List.foldlM_nil, pure_eq_ok] at hfold
      subst hfold
      simp
  | cons item items ih =>
      rw [List.foldlM_cons, bind_eq_ok] at hfold
      obtain ⟨next, hnext, hrest⟩ := hfold
      rw [ih (fun other hother => hbody other (List.mem_cons_of_mem item hother)) hrest,
        hbody item List.mem_cons_self state next hnext, or_assoc]
      simp only [List.mem_cons, exists_eq_or_imp]

/-- Every turn that a loop comes to meets a condition on its item and state. -/
def EachTurn (meets : A → S → Prop) (body : S → A → Except E S) : List A → S → Prop
  | [], _ => True
  | item :: items, state => meets item state ∧
      ∀ next, body state item = .ok next → EachTurn meets body items next

/-- A loop reverts in one of its turns, after the turns before it returned. -/
theorem foldlM_eq_error {body : S → A → Except E S} {items : List A} {state : S}
    {reason : E} (hfold : items.foldlM body state = .error reason) :
    ∃ before item after middle, items = before ++ item :: after ∧
      before.foldlM body state = .ok middle ∧ body middle item = .error reason := by
  induction items generalizing state with
  | nil => exact absurd hfold pure_ne_error
  | cons item items ih =>
      rw [List.foldlM_cons, bind_eq_error] at hfold
      rcases hfold with hitem | ⟨next, hnext, hrest⟩
      · exact ⟨[], item, items, state, rfl, rfl, hitem⟩
      · obtain ⟨before, failing, after, middle, rfl, hbefore, hfailing⟩ := ih hrest
        refine ⟨item :: before, failing, after, middle, rfl, ?_, hfailing⟩
        rw [List.foldlM_cons, hnext, ok_bind]
        exact hbefore

/-! ## Reasons of a revert -/

/-- If the call reverts, its reason is an allowed one. -/
def RevertsOnly (allowed : E → Prop) (call : Except E A) : Prop :=
  ∀ reason, call = .error reason → allowed reason

section RevertsOnly

variable {allowed wider : E → Prop}

theorem RevertsOnly.mono {call : Except E A} (hcall : RevertsOnly allowed call)
    (hwider : ∀ reason, allowed reason → wider reason) : RevertsOnly wider call :=
  fun reason herror => hwider reason (hcall reason herror)

theorem revertsOnly_pure (value : A) : RevertsOnly allowed (pure value : Except E A) :=
  fun _ herror => absurd herror pure_ne_error

theorem revertsOnly_error {reason : E} (hreason : allowed reason) :
    RevertsOnly allowed (.error reason : Except E A) := by
  intro other herror
  rw [Except.error.injEq] at herror
  exact herror ▸ hreason

theorem revertsOnly_require {condition : Prop} [Decidable condition] {reason : E}
    (hreason : ¬condition → allowed reason) :
    RevertsOnly allowed (require condition reason) := by
  intro other herror
  obtain ⟨hfails, rfl⟩ := require_eq_error.mp herror
  exact hreason hfails

theorem RevertsOnly.bind {first : Except E A} {next : A → Except E B}
    (hfirst : RevertsOnly allowed first)
    (hnext : ∀ value, first = .ok value → RevertsOnly allowed (next value)) :
    RevertsOnly allowed (first >>= next) := by
  intro reason herror
  rcases bind_eq_error.mp herror with hreverts | ⟨value, hvalue, hreverts⟩
  · exact hfirst reason hreverts
  · exact hnext value hvalue reason hreverts

theorem RevertsOnly.ite {condition : Prop} [Decidable condition] {yes no : Except E A}
    (hyes : condition → RevertsOnly allowed yes)
    (hno : ¬condition → RevertsOnly allowed no) :
    RevertsOnly allowed (if condition then yes else no) := by
  split
  · rename_i hcondition
    exact hyes hcondition
  · rename_i hcondition
    exact hno hcondition

theorem revertsOnly_foldlM {body : S → A → Except E S} {items : List A}
    (hbody : ∀ item ∈ items, ∀ state, RevertsOnly allowed (body state item)) (state : S) :
    RevertsOnly allowed (items.foldlM body state) := by
  intro reason herror
  obtain ⟨before, item, after, middle, rfl, -, hitem⟩ := foldlM_eq_error herror
  exact hbody item (by simp) middle reason hitem

theorem revertsOnly_mapM {body : C → Except E A} {items : List C}
    (hbody : ∀ item ∈ items, RevertsOnly allowed (body item)) :
    RevertsOnly allowed (items.mapM body) := by
  induction items with
  | nil => exact revertsOnly_pure []
  | cons item items ih =>
      rw [List.mapM_cons]
      refine (hbody item List.mem_cons_self).bind fun value _ => ?_
      refine RevertsOnly.bind (ih fun other hother =>
        hbody other (List.mem_cons_of_mem item hother)) fun rest _ => ?_
      exact revertsOnly_pure (value :: rest)

theorem revertsOnly_forM {body : C → Except E PUnit} {items : List C}
    (hbody : ∀ item ∈ items, RevertsOnly allowed (body item)) :
    RevertsOnly allowed (items.forM body) := by
  induction items with
  | nil => exact revertsOnly_pure PUnit.unit
  | cons item items ih =>
      change RevertsOnly allowed (body item >>= fun _ => items.forM body)
      exact (hbody item List.mem_cons_self).bind fun _ _ =>
        ih fun other hother => hbody other (List.mem_cons_of_mem item hother)

end RevertsOnly

/-! ## One value for each item -/

/-- A loop of checks passes if each check does. -/
theorem forM_eq_ok {body : C → Except E PUnit} {items : List C} :
    items.forM body = .ok () ↔ ∀ item ∈ items, body item = .ok () := by
  induction items with
  | nil => simp [pure_eq_ok]
  | cons item items ih =>
      change (body item >>= fun _ => items.forM body) = .ok () ↔ _
      rw [bind_eq_ok, List.forall_mem_cons, ih]
      exact ⟨fun ⟨_, hitem, hrest⟩ => ⟨hitem, hrest⟩,
        fun ⟨hitem, hrest⟩ => ⟨_, hitem, hrest⟩⟩

/-- A loop that computes one value for each item, where each item has to fit. -/
theorem mapM_eq_ok {fits : C → Prop} {compute : C → A} {body : C → Except E A}
    (hbody : ∀ item result, body item = .ok result ↔ fits item ∧ compute item = result)
    {items : List C} {results : List A} :
    items.mapM body = .ok results ↔
      (∀ item ∈ items, fits item) ∧ items.map compute = results := by
  induction items generalizing results with
  | nil => simp [pure_eq_ok]
  | cons item items ih =>
      rw [List.mapM_cons]
      simp only [bind_eq_ok, hbody, ih, pure_eq_ok, List.forall_mem_cons, List.map_cons]
      constructor
      · rintro ⟨_, ⟨hitem, rfl⟩, _, ⟨hrest, rfl⟩, rfl⟩
        exact ⟨⟨hitem, hrest⟩, rfl⟩
      · rintro ⟨⟨hitem, hrest⟩, rfl⟩
        exact ⟨_, ⟨hitem, rfl⟩, _, ⟨hrest, rfl⟩, rfl⟩

/-- Every value computed by a loop comes from one of its items. -/
theorem mem_of_mapM_eq_ok {body : C → Except E A} {items : List C} {results : List A}
    (hmap : items.mapM body = .ok results) {result : A} (hresult : result ∈ results) :
    ∃ item ∈ items, body item = .ok result := by
  induction items generalizing results with
  | nil =>
      rw [List.mapM_nil, pure_eq_ok] at hmap
      subst hmap
      exact absurd hresult List.not_mem_nil
  | cons item items ih =>
      rw [List.mapM_cons] at hmap
      simp only [bind_eq_ok, pure_eq_ok] at hmap
      obtain ⟨value, hvalue, rest, hrest, rfl⟩ := hmap
      rcases List.mem_cons.mp hresult with rfl | hmem
      · exact ⟨item, List.mem_cons_self, hvalue⟩
      · obtain ⟨other, hother, hbody⟩ := ih hrest hmem
        exact ⟨other, List.mem_cons_of_mem item hother, hbody⟩

/-- A loop that returns has computed a value for each item. -/
theorem ok_of_mapM_eq_ok {body : C → Except E A} {items : List C} {results : List A}
    (hmap : items.mapM body = .ok results) {item : C} (hitem : item ∈ items) :
    ∃ result, body item = .ok result := by
  induction items generalizing results with
  | nil => exact absurd hitem List.not_mem_nil
  | cons first items ih =>
      rw [List.mapM_cons] at hmap
      simp only [bind_eq_ok] at hmap
      obtain ⟨value, hvalue, rest, hrest, -⟩ := hmap
      rcases List.mem_cons.mp hitem with rfl | hmem
      · exact ⟨value, hvalue⟩
      · exact ih hrest hmem

/-- What each computed value has in common with its item, in the order of both. -/
theorem map_of_mapM_eq_ok {K : Type*} {body : C → Except E A} {items : List C}
    {results : List A} (ofItem : C → K) (ofResult : A → K)
    (hbody : ∀ item ∈ items, ∀ result, body item = .ok result →
      ofResult result = ofItem item)
    (hmap : items.mapM body = .ok results) : results.map ofResult = items.map ofItem := by
  induction items generalizing results with
  | nil =>
      rw [List.mapM_nil, pure_eq_ok] at hmap
      subst hmap
      rfl
  | cons item items ih =>
      rw [List.mapM_cons] at hmap
      simp only [bind_eq_ok, pure_eq_ok] at hmap
      obtain ⟨value, hvalue, rest, hrest, rfl⟩ := hmap
      rw [List.map_cons, List.map_cons, hbody item List.mem_cons_self value hvalue,
        ih (fun other hother => hbody other (List.mem_cons_of_mem item hother)) hrest]

end SetProtocol.Transaction
