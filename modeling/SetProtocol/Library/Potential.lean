import Mathlib.Tactic.Linarith
import SetProtocol.Library.Transaction

/-!
# Potentials

Every call costs something, and a potential falls by at most the cost of a call.  Over a run
it falls by at most what all its calls cost together.  Discarded calls cost nothing.
-/

namespace SetProtocol.Transaction

variable {C S : Type*} {E : Type*} {step : C → S → Except E S}

/-- What the calls of a run cost. -/
def spent (step : C → S → Except E S) (cost : C → S → ℕ) : List C → S → ℕ
  | [], _ => 0
  | call :: calls, state =>
      match step call state with
      | .ok next => cost call state + spent step cost calls next
      | .error _ => spent step cost calls state

/-- What holds within a bound, holds after each call within the bound and its cost. -/
theorem run_within (within : ℕ → S → Prop) {cost : C → S → ℕ} {calls : List C}
    (hstep : ∀ call ∈ calls, ∀ bound state next, within bound state →
      step call state = .ok next → within (bound + cost call state) next)
    {bound : ℕ} {state : S} (hstate : within bound state) :
    within (bound + spent step cost calls state) (run step calls state) := by
  induction calls generalizing bound state with
  | nil => exact hstate
  | cons call calls ih =>
      have hrest : ∀ later ∈ calls, ∀ limit current next, within limit current →
          step later current = .ok next → within (limit + cost later current) next :=
        fun later hlater => hstep later (List.mem_cons_of_mem _ hlater)
      rw [run_cons, spent, settle]
      cases hcall : step call state with
      | error reason => exact ih hrest hstate
      | ok next =>
          have hafter := ih hrest (hstep call List.mem_cons_self bound state next hstate hcall)
          rwa [Nat.add_assoc] at hafter

/-- A potential that each call lowers by at most the price of its cost. -/
theorem run_potential (invariant : S → Prop) (potential : S → ℤ) {price : ℤ}
    {cost : C → S → ℕ} {calls : List C}
    (hstep : ∀ call ∈ calls, ∀ state next, invariant state → step call state = .ok next →
      invariant next ∧ potential state - price * cost call state ≤ potential next)
    {state : S} (hstate : invariant state) :
    potential state - price * spent step cost calls state ≤
      potential (run step calls state) := by
  have hstart : invariant state ∧ potential state - price * (0 : ℕ) ≤ potential state :=
    ⟨hstate, by simp⟩
  have hwithin := run_within
    (fun bound current => invariant current ∧ potential state - price * bound ≤ potential current)
    (fun call hmem bound current next hcurrent hcall => by
      obtain ⟨hkept, hfalls⟩ := hstep call hmem current next hcurrent.1 hcall
      refine ⟨hkept, ?_⟩
      push_cast
      linarith [hcurrent.2]) hstart
  simpa using hwithin.2

end SetProtocol.Transaction
