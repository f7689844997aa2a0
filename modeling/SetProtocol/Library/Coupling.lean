import SetProtocol.Library.Transaction

/-!
# Two transactions side by side

Two calls are coupled if they fare alike: both return, with related results, or
both revert for the same reason.  The rules follow the structure of a
transaction, so that a coupling of two programs is built step by step from those
of their parts, and carries over to runs.
-/

namespace SetProtocol.Transaction

universe u v w

variable {E : Type v} {A B C D S T : Type u} {I : Type w}

/-- Both calls return, with related results, or both revert for the same reason. -/
inductive Coupled (relation : A → B → Prop) : Except E A → Except E B → Prop
  | ok {first : A} {second : B} (hrelated : relation first second) :
      Coupled relation (.ok first) (.ok second)
  | error (reason : E) : Coupled relation (.error reason) (.error reason)

variable {relation : A → B → Prop}

theorem coupled_pure {first : A} {second : B} (hrelated : relation first second) :
    Coupled relation (pure first : Except E A) (pure second) :=
  .ok hrelated

theorem Coupled.mono {weaker : A → B → Prop} {first : Except E A} {second : Except E B}
    (hcoupled : Coupled relation first second)
    (hweaker : ∀ value other, relation value other → weaker value other) :
    Coupled weaker first second := by
  cases hcoupled with
  | ok hrelated => exact .ok (hweaker _ _ hrelated)
  | error reason => exact .error reason

theorem Coupled.bind {next : C → D → Prop} {first : Except E A} {second : Except E B}
    {following : A → Except E C} {other : B → Except E D}
    (hcoupled : Coupled relation first second)
    (hnext : ∀ value result, relation value result →
      Coupled next (following value) (other result)) :
    Coupled next (first >>= following) (second >>= other) := by
  cases hcoupled with
  | ok hrelated => exact hnext _ _ hrelated
  | error reason => exact .error reason

/-- Coupled calls whose common part is the same on both sides. -/
theorem Coupled.bind_same {next : C → D → Prop} {shared : Except E A}
    {following : A → Except E C} {other : A → Except E D}
    (hnext : ∀ value, shared = .ok value → Coupled next (following value) (other value)) :
    Coupled next (shared >>= following) (shared >>= other) := by
  cases shared with
  | error reason => exact .error reason
  | ok value => exact hnext value rfl

theorem Coupled.ite {condition : Prop} [Decidable condition] {yes no : Except E A}
    {yes' no' : Except E B} (hyes : condition → Coupled relation yes yes')
    (hno : ¬condition → Coupled relation no no') :
    Coupled relation (if condition then yes else no) (if condition then yes' else no') := by
  split
  · exact hyes ‹_›
  · exact hno ‹_›

/-- If the one call returns, so does the other. -/
theorem Coupled.of_ok {first : Except E A} {second : Except E B} {value : A}
    (hcoupled : Coupled relation first second) (hfirst : first = .ok value) :
    ∃ other, second = .ok other ∧ relation value other := by
  cases hcoupled with
  | ok hrelated =>
      cases hfirst
      exact ⟨_, rfl, hrelated⟩
  | error reason => cases hfirst

/-- Both calls return, or neither does. -/
theorem Coupled.ok_iff {first : Except E A} {second : Except E B}
    (hcoupled : Coupled relation first second) :
    (∃ value, first = .ok value) ↔ ∃ other, second = .ok other := by
  cases hcoupled with
  | ok hrelated => exact ⟨fun _ => ⟨_, rfl⟩, fun _ => ⟨_, rfl⟩⟩
  | error reason => simp

/-- Coupled steps leave related states behind, whether they return or not. -/
theorem settle_related {relation : S → T → Prop} {call : S → Except E S}
    {other : T → Except E T} {state : S} {result : T}
    (hcoupled : Coupled relation (call state) (other result))
    (hrelated : relation state result) :
    relation (settle call state) (settle other result) := by
  unfold settle
  generalize call state = first at *
  generalize other result = second at *
  cases hcoupled with
  | ok hnext => exact hnext
  | error reason => exact hrelated

/-- Runs of coupled steps stay related throughout. -/
theorem run_related {relation : S → T → Prop} {step : I → S → Except E S}
    {other : I → T → Except E T} {calls : List I}
    (hstep : ∀ call ∈ calls, ∀ state result, relation state result →
      Coupled relation (step call state) (other call result))
    {state : S} {result : T} (hrelated : relation state result) :
    relation (run step calls state) (run other calls result) := by
  induction calls generalizing state result with
  | nil => exact hrelated
  | cons call calls ih =>
      rw [run_cons, run_cons]
      apply ih
      · intro later hlater
        exact hstep later (List.mem_cons_of_mem call hlater)
      · exact settle_related (hstep call List.mem_cons_self state result hrelated) hrelated

end SetProtocol.Transaction
