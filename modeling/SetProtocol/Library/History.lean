import SetProtocol.Library.Transaction

/-!
# What happened before

The log of a run lists its returning calls, each with what was observed of the
state just before it.  `Since` says of a log that some entry opened a period
which no later entry has closed.  An invariant between log and state is kept by a
whole run once every returning call keeps it.
-/

namespace SetProtocol.Transaction

universe u v

variable {E : Type v} {S : Type u} {C T O : Type*}

/-- The returning calls of a run, oldest call first. -/
def log (observe : S → T) (step : C → S → Except E S) : List C → S → List (T × C)
  | [], _ => []
  | call :: calls, state =>
      match step call state with
      | .ok next => (observe state, call) :: log observe step calls next
      | .error _ => log observe step calls state

theorem log_cons_of_ok {observe : S → T} {step : C → S → Except E S} {call : C}
    {calls : List C} {state next : S} (hcall : step call state = .ok next) :
    log observe step (call :: calls) state =
      (observe state, call) :: log observe step calls next := by
  simp [log, hcall]

theorem log_cons_of_error {observe : S → T} {step : C → S → Except E S} {call : C}
    {calls : List C} {state : S} {reason : E} (hcall : step call state = .error reason) :
    log observe step (call :: calls) state = log observe step calls state := by
  simp [log, hcall]

/-- The invariant rule with a log: what each returning call keeps, with its own entry
added to the log, holds after the whole run. -/
theorem run_log_preserves (invariant : List (T × C) → S → Prop) (observe : S → T)
    {step : C → S → Except E S}
    (hstep : ∀ past call state next, invariant past state → step call state = .ok next →
      invariant (past ++ [(observe state, call)]) next)
    (calls : List C) {past : List (T × C)} {state : S} (hstate : invariant past state) :
    invariant (past ++ log observe step calls state) (run step calls state) := by
  induction calls generalizing past state with
  | nil => simpa [log] using hstate
  | cons call calls ih =>
      rw [run_cons]
      cases hcall : step call state with
      | error reason =>
          rw [log_cons_of_error hcall, settle_of_error hcall]
          exact ih hstate
      | ok next =>
          rw [log_cons_of_ok hcall, settle_of_ok hcall, List.append_cons]
          exact ih (hstep past call state next hstate hcall)

/-! ## Open periods -/

/-- An entry of this kind has opened a period, and nothing has closed it since. -/
def Since (opens closes : O → Prop) (past : List O) : Prop :=
  ∃ before entry after, past = before ++ entry :: after ∧ opens entry ∧
    ∀ later ∈ after, ¬closes later

variable {opens closes : O → Prop} {past : List O} {entry : O}

/-- The newest entry opens a period itself. -/
theorem since_snoc_of_opens (hopens : opens entry) : Since opens closes (past ++ [entry]) :=
  ⟨past, entry, [], rfl, hopens, fun _ hmem => absurd hmem List.not_mem_nil⟩

/-- The newest entry leaves a period open. -/
theorem Since.snoc (hsince : Since opens closes past) (hentry : ¬closes entry) :
    Since opens closes (past ++ [entry]) := by
  obtain ⟨before, opening, after, rfl, hopens, hafter⟩ := hsince
  refine ⟨before, opening, after ++ [entry], by simp, hopens, fun later hlater => ?_⟩
  rcases List.mem_append.mp hlater with hmem | hmem
  · exact hafter later hmem
  · exact List.mem_singleton.mp hmem ▸ hentry

theorem Since.mono {wider : O → Prop} (hsince : Since opens closes past)
    (hwider : ∀ entry, opens entry → wider entry) : Since wider closes past := by
  obtain ⟨before, opening, after, hpast, hopens, hafter⟩ := hsince
  exact ⟨before, opening, after, hpast, hwider opening hopens, hafter⟩

end SetProtocol.Transaction
