import SetProtocol.Library.Transaction

/-!
# Searches that may revert

A loop applies a fallible test to the items of a list and stops at the first hit.  Items
behind it are not looked at, so that the loop answers as soon as the test answers for every
item up to there.
-/

namespace SetProtocol.Transaction

universe u v

variable {E : Type v} {A : Type u} {test : A → Except E Bool} {items : List A}
variable {answers misses : A → Prop}

/-- No item is a hit. -/
def noneOf (test : A → Except E Bool) : List A → Except E Bool
  | [] => pure true
  | item :: rest => do
      let hit ← test item
      if hit = true then pure false else noneOf test rest

/-- A loop over a list that stops at the first hit is this search. -/
theorem eq_noneOf {search : List A → Except E Bool} (hnil : search [] = pure true)
    (hcons : ∀ item rest, search (item :: rest) = do
      let hit ← test item
      if hit = true then pure false else search rest) (items : List A) :
    search items = noneOf test items := by
  induction items with
  | nil => exact hnil
  | cons item rest ih => rw [hcons, ih, noneOf]

/-- When the test answers, and what it says. -/
def Decides (test : A → Except E Bool) (answers misses : A → Prop) (item : A) : Prop :=
  ∀ hit, test item = .ok hit ↔
    answers item ∧ ((hit = false ∧ misses item) ∨ (hit = true ∧ ¬misses item))

theorem noneOf_cons_of_miss {item : A} {rest : List A} (hmiss : test item = .ok false) :
    noneOf test (item :: rest) = noneOf test rest := by
  rw [noneOf, hmiss, ok_bind, if_neg Bool.false_ne_true]

theorem noneOf_cons_of_hit {item : A} {rest : List A} (hhit : test item = .ok true) :
    noneOf test (item :: rest) = .ok false := by
  rw [noneOf, hhit, ok_bind, if_pos rfl]
  rfl

/-- Whether the loop answers depends on the items up to the first hit. -/
theorem noneOf_answers_iff (htest : ∀ item ∈ items, Decides test answers misses item) :
    (∃ none, noneOf test items = .ok none) ↔
      ∀ before item after, items = before ++ item :: after →
        (∀ earlier ∈ before, misses earlier) → answers item := by
  induction items with
  | nil => simp [noneOf, pure_eq_ok]
  | cons first rest ih =>
      have hfirst := htest first List.mem_cons_self
      have hrest := ih fun item hmem => htest item (List.mem_cons_of_mem first hmem)
      constructor
      · rintro ⟨none, hanswer⟩ before item after hsplit hbefore
        rw [noneOf, bind_eq_ok] at hanswer
        obtain ⟨hit, hhit, hloop⟩ := hanswer
        obtain ⟨hanswers, hdecided⟩ := (hfirst hit).mp hhit
        cases before with
        | nil =>
            obtain ⟨rfl, -⟩ := List.cons_eq_cons.mp hsplit
            exact hanswers
        | cons head before =>
            obtain ⟨rfl, htail⟩ := List.cons_eq_cons.mp hsplit
            have hfalse : hit = false := by
              rcases hdecided with ⟨hfalse, -⟩ | ⟨-, hnot⟩
              · exact hfalse
              · exact absurd (hbefore first List.mem_cons_self) hnot
            rw [hfalse, if_neg Bool.false_ne_true] at hloop
            exact hrest.mp ⟨none, hloop⟩ before item after htail fun earlier hmem =>
              hbefore earlier (List.mem_cons_of_mem first hmem)
      · intro hall
        have hanswers := hall [] first rest rfl (by simp)
        by_cases hmisses : misses first
        · have hmiss := (hfirst false).mpr ⟨hanswers, Or.inl ⟨rfl, hmisses⟩⟩
          rw [noneOf_cons_of_miss hmiss]
          refine hrest.mpr fun before item after hsplit hbefore => ?_
          apply hall (first :: before) item after (by rw [hsplit]; rfl)
          intro earlier hmem
          rcases List.mem_cons.mp hmem with rfl | hmem
          · exact hmisses
          · exact hbefore earlier hmem
        · have hhit := (hfirst true).mpr ⟨hanswers, Or.inr ⟨rfl, hmisses⟩⟩
          exact ⟨false, noneOf_cons_of_hit hhit⟩

end SetProtocol.Transaction
