import SetProtocol.Library.Transaction

/-!
# Programs that do the same

Two programs agree if on every input both return, with related results, or both revert.
They may revert for different reasons, since they check in a different order.  Each is
brought into a normal form first: the loops that only check, apart from the loop that acts.
-/

namespace SetProtocol.Transaction

universe u v

variable {E : Type v} {A B C D S T : Type u} {I : Type*}

/-! ## Normal forms -/

/-- Checks inside of a loop, pulled out of it. -/
theorem foldlM_checked {fits : I → Prop} (invariant : S → Prop) {body plain : S → I → Except E S}
    {items : List I}
    (hbody : ∀ item ∈ items, ∀ state next, invariant state →
      (body state item = .ok next ↔ fits item ∧ plain state item = .ok next))
    (hplain : ∀ item ∈ items, ∀ state next, invariant state →
      plain state item = .ok next → invariant next)
    {state final : S} (hstate : invariant state) :
    items.foldlM body state = .ok final ↔
      (∀ item ∈ items, fits item) ∧ items.foldlM plain state = .ok final := by
  induction items generalizing state with
  | nil => simp
  | cons item items ih =>
      have hrest : ∀ next, invariant next →
          (items.foldlM body next = .ok final ↔
            (∀ other ∈ items, fits other) ∧ items.foldlM plain next = .ok final) :=
        fun next hnext => ih
          (fun other hother => hbody other (List.mem_cons_of_mem item hother))
          (fun other hother => hplain other (List.mem_cons_of_mem item hother)) hnext
      rw [List.foldlM_cons, List.foldlM_cons, List.forall_mem_cons, bind_eq_ok, bind_eq_ok]
      constructor
      · rintro ⟨next, hturn, hloop⟩
        obtain ⟨hitem, hturn⟩ := (hbody item List.mem_cons_self state next hstate).mp hturn
        obtain ⟨hitems, hloop⟩ := (hrest next
          (hplain item List.mem_cons_self state next hstate hturn)).mp hloop
        exact ⟨⟨hitem, hitems⟩, next, hturn, hloop⟩
      · rintro ⟨⟨hitem, hitems⟩, next, hturn, hloop⟩
        refine ⟨next, (hbody item List.mem_cons_self state next hstate).mpr ⟨hitem, hturn⟩, ?_⟩
        exact (hrest next
          (hplain item List.mem_cons_self state next hstate hturn)).mpr ⟨hitems, hloop⟩

/-- A loop on a part of a larger state. -/
theorem foldlM_within_eq_ok (embed : S → T) (invariant : S → Prop)
    {body : T → I → Except E T} {plain : S → I → Except E S} {items : List I}
    (hbody : ∀ item ∈ items, ∀ state next, invariant state →
      (body (embed state) item = .ok next ↔
        ∃ part, plain state item = .ok part ∧ embed part = next))
    (hplain : ∀ item ∈ items, ∀ state next, invariant state →
      plain state item = .ok next → invariant next)
    {state : S} {final : T} (hstate : invariant state) :
    items.foldlM body (embed state) = .ok final ↔
      ∃ part, items.foldlM plain state = .ok part ∧ embed part = final := by
  induction items generalizing state with
  | nil => simp [pure_eq_ok]
  | cons item items ih =>
      have hrest : ∀ next, invariant next →
          (items.foldlM body (embed next) = .ok final ↔
            ∃ part, items.foldlM plain next = .ok part ∧ embed part = final) :=
        fun next hnext => ih
          (fun other hother => hbody other (List.mem_cons_of_mem item hother))
          (fun other hother => hplain other (List.mem_cons_of_mem item hother)) hnext
      simp only [List.foldlM_cons, bind_eq_ok,
        hbody item List.mem_cons_self state _ hstate]
      constructor
      · rintro ⟨_, ⟨next, hturn, rfl⟩, hloop⟩
        obtain ⟨part, hpart, rfl⟩ := (hrest next
          (hplain item List.mem_cons_self state next hstate hturn)).mp hloop
        exact ⟨part, ⟨next, hturn, hpart⟩, rfl⟩
      · rintro ⟨part, ⟨next, hturn, hpart⟩, rfl⟩
        refine ⟨embed next, ⟨next, hturn, rfl⟩, ?_⟩
        exact (hrest next
          (hplain item List.mem_cons_self state next hstate hturn)).mpr ⟨part, hpart, rfl⟩

/-- A loop that computes one value for each item, where what it takes is only known of the
items that are listed. -/
theorem mapM_listed_eq_ok {fits : I → Prop} {compute : I → A} {body : I → Except E A}
    {items : List I} {results : List A}
    (hbody : ∀ item ∈ items, ∀ result,
      body item = .ok result ↔ fits item ∧ compute item = result) :
    items.mapM body = .ok results ↔
      (∀ item ∈ items, fits item) ∧ items.map compute = results := by
  induction items generalizing results with
  | nil => simp [pure_eq_ok]
  | cons item items ih =>
      have hrest : ∀ values, items.mapM body = .ok values ↔
          (∀ other ∈ items, fits other) ∧ items.map compute = values :=
        fun values => ih fun other hother => hbody other (List.mem_cons_of_mem item hother)
      rw [List.mapM_cons]
      simp only [bind_eq_ok, hbody item List.mem_cons_self, hrest, pure_eq_ok,
        List.forall_mem_cons, List.map_cons]
      constructor
      · rintro ⟨_, ⟨hitem, rfl⟩, _, ⟨hitems, rfl⟩, rfl⟩
        exact ⟨⟨hitem, hitems⟩, rfl⟩
      · rintro ⟨⟨hitem, hitems⟩, rfl⟩
        exact ⟨_, ⟨hitem, rfl⟩, _, ⟨hitems, rfl⟩, rfl⟩

/-! ## Agreement -/

/-- Both return, with related results, or both revert, each for a reason of its own. -/
inductive Agree (relation : A → B → Prop) : Except E A → Except E B → Prop
  | ok {first : A} {second : B} (hrelated : relation first second) :
      Agree relation (.ok first) (.ok second)
  | error (reason other : E) : Agree relation (.error reason) (.error other)

variable {relation : A → B → Prop}

/-- Programs with one normal form agree. -/
theorem agree_of_same_spec {spec : D → Prop} (left : D → A) (right : D → B)
    {first : Except E A} {second : Except E B}
    (hfirst : ∀ value, first = .ok value ↔ ∃ outcome, spec outcome ∧ left outcome = value)
    (hsecond : ∀ value, second = .ok value ↔ ∃ outcome, spec outcome ∧ right outcome = value)
    (hrelated : ∀ outcome, spec outcome → relation (left outcome) (right outcome)) :
    Agree relation first second := by
  cases first with
  | ok value =>
      obtain ⟨outcome, hspec, rfl⟩ := (hfirst value).mp rfl
      obtain rfl := (hsecond (right outcome)).mpr ⟨outcome, hspec, rfl⟩
      exact .ok (hrelated outcome hspec)
  | error reason =>
      cases second with
      | error other => exact .error reason other
      | ok value =>
          obtain ⟨outcome, hspec, -⟩ := (hsecond value).mp rfl
          have hreturns := (hfirst (left outcome)).mpr ⟨outcome, hspec, rfl⟩
          cases hreturns

/-- Which calls of a run return. -/
def returning (step : I → S → Except E S) : List I → S → List Bool
  | [], _ => []
  | call :: calls, state =>
      (step call state).isOk :: returning step calls (settle (step call) state)

/-- Runs of steps that agree stay related, and the same calls return in both. -/
theorem run_agree {relation : S → T → Prop} {step : I → S → Except E S}
    {other : I → T → Except E T}
    (hstep : ∀ call state result, relation state result →
      Agree relation (step call state) (other call result))
    (calls : List I) {state : S} {result : T} (hrelated : relation state result) :
    relation (run step calls state) (run other calls result) ∧
      returning step calls state = returning other calls result := by
  induction calls generalizing state result with
  | nil => exact ⟨hrelated, rfl⟩
  | cons call calls ih =>
      have hagree := hstep call state result hrelated
      have hnext : relation (settle (step call) state) (settle (other call) result) ∧
          (step call state).isOk = (other call result).isOk := by
        unfold settle
        generalize step call state = first at hagree ⊢
        generalize other call result = second at hagree ⊢
        cases hagree with
        | ok hnext => exact ⟨hnext, rfl⟩
        | error reason other => exact ⟨hrelated, rfl⟩
      obtain ⟨hfinal, hreturning⟩ := ih hnext.1
      rw [run_cons, run_cons, returning, returning]
      exact ⟨hfinal, congrArg₂ List.cons hnext.2 hreturning⟩

end SetProtocol.Transaction
