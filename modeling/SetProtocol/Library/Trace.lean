import SetProtocol.Library.Transaction

/-!
# Loops and what they record

A loop looks at each item of a list, passes over some of them and takes one step for each of
the others.  A step leaves a record.  The records then tell, in order, which items were due
and what was done for each.
-/

namespace SetProtocol.Transaction

universe u v w

variable {S : Type u} {R : Type v} {A : Type w} {E : Type*}

/-- Steps one after the other, each with its record. -/
inductive Trace (step : S → R → S → Prop) : S → List R → S → Prop
  | nil {state : S} : Trace step state [] state
  | cons {state middle final : S} {record : R} {records : List R} :
      step state record middle → Trace step middle records final →
        Trace step state (record :: records) final

variable {step : S → R → S → Prop} {start final : S} {records : List R}

/-- What every step preserves holds at the end. -/
theorem Trace.preserves {invariant : S → Prop} (htrace : Trace step start records final)
    (hstep : ∀ state record next, invariant state → step state record next → invariant next)
    (hstart : invariant start) : invariant final := by
  induction htrace with
  | nil => exact hstart
  | cons hfirst _ ih => exact ih (hstep _ _ _ hstart hfirst)

/-- What every step says of its record. -/
theorem Trace.each {property : R → Prop} (htrace : Trace step start records final)
    (hstep : ∀ state record next, step state record next → property record) :
    ∀ record ∈ records, property record := by
  induction htrace with
  | nil => exact fun record hmem => absurd hmem List.not_mem_nil
  | cons hfirst _ ih => exact List.forall_mem_cons.mpr ⟨hstep _ _ _ hfirst, ih⟩

/-- A successful loop is a trace, with one record for each due item. -/
theorem foldlM_traces {K : Type*} {invariant : S → Prop} {due : A → Bool} {key : A → K}
    {note : R → K} {body : S → A → Except E S} {items : List A}
    (hbody : ∀ state item next, invariant state → body state item = .ok next →
      (due item = false ∧ next = state) ∨
        (due item = true ∧ invariant next ∧ ∃ record, note record = key item ∧
          step state record next))
    (hstart : invariant start) (hfold : items.foldlM body start = .ok final) :
    ∃ records, Trace step start records final ∧
      records.map note = (items.filter due).map key := by
  induction items generalizing start with
  | nil =>
      rw [List.foldlM_nil, pure_eq_ok] at hfold
      subst hfold
      exact ⟨[], Trace.nil, rfl⟩
  | cons item items ih =>
      rw [List.foldlM_cons, bind_eq_ok] at hfold
      obtain ⟨middle, hmiddle, hrest⟩ := hfold
      rcases hbody start item middle hstart hmiddle with
        ⟨hpassed, rfl⟩ | ⟨hdue, hkept, record, hnote, hfirst⟩
      · obtain ⟨records, htrace, hrecords⟩ := ih hstart hrest
        exact ⟨records, htrace, by simp [hpassed, hrecords]⟩
      · obtain ⟨records, htrace, hrecords⟩ := ih hkept hrest
        exact ⟨record :: records, Trace.cons hfirst htrace, by simp [hdue, hnote, hrecords]⟩

end SetProtocol.Transaction
