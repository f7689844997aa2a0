import Mathlib.Algebra.GroupWithZero.Nat
import SetProtocol.Library.Transaction

/-!
# Filling an array

An array of fixed size is written from the front, with a counter for the next entry.  As long
as there is room, this collects the values in a list.
-/

namespace SetProtocol.Transaction

universe u v

/-- An array and the index of the next entry to write. -/
structure Filling (B : Type u) where
  entries : List B
  count : ℕ

namespace Filling

variable {E : Type v} {A : Type*} {B : Type u} {blank : B} {size : ℕ} {values : List B}
variable {outside : E}

/-- A new array. -/
def empty (blank : B) (size : ℕ) : Filling B := ⟨List.replicate size blank, 0⟩

/-- Write the next entry, if there is room for it. -/
def push (outside : E) (filling : Filling B) (value : B) : Except E (Filling B) :=
  if filling.count < filling.entries.length then
    .ok ⟨filling.entries.set filling.count value, filling.count + 1⟩
  else .error outside

/-- The array once some values have been written. -/
def holding (blank : B) (size : ℕ) (values : List B) : Filling B :=
  ⟨values ++ List.replicate (size - values.length) blank, values.length⟩

theorem empty_eq_holding (blank : B) (size : ℕ) : empty blank size = holding blank size [] :=
  rfl

/-- A full array is the list of the values. -/
theorem entries_of_full (hfull : values.length = size) :
    (holding blank size values).entries = values := by
  rw [holding, hfull, Nat.sub_self, List.replicate_zero, List.append_nil]

theorem push_holding (value : B) (hroom : values.length < size) :
    (holding blank size values).push outside value =
      .ok (holding blank size (values ++ [value])) := by
  obtain ⟨left, hleft⟩ := Nat.exists_eq_add_of_lt hroom
  have hblanks : size - values.length = left + 1 := by omega
  have hrest : size - (values ++ [value]).length = left := by
    rw [List.length_append, List.length_singleton]
    omega
  have hinside : values.length <
      (values ++ List.replicate (size - values.length) blank).length := by
    rw [List.length_append, List.length_replicate]
    omega
  have hwritten : (values ++ List.replicate (size - values.length) blank).set values.length
      value = values ++ [value] ++ List.replicate left blank := by
    rw [hblanks, List.replicate_succ, List.set_append_right _ _ (Nat.le_refl _), Nat.sub_self,
      List.set_cons_zero, List.append_assoc, List.singleton_append]
  have hpush : (holding blank size values).push outside value =
      .ok ⟨(values ++ List.replicate (size - values.length) blank).set values.length value,
        values.length + 1⟩ := if_pos hinside
  rw [hpush, hwritten, holding, hrest, List.length_append, List.length_singleton]

/-- One value for each item. -/
theorem foldlM_push {compute : A → Except E B} {items : List A}
    (hroom : values.length + items.length ≤ size) :
    items.foldlM (fun filling item => do
        let value ← compute item
        filling.push outside value) (holding blank size values) = (do
      let more ← items.mapM compute
      pure (holding blank size (values ++ more))) := by
  induction items generalizing values with
  | nil =>
      rw [List.foldlM_nil, List.mapM_nil, pure_bind, List.append_nil]
  | cons item items ih =>
      rw [List.length_cons] at hroom
      rw [List.foldlM_cons, List.mapM_cons]
      cases compute item with
      | error reason => rfl
      | ok value =>
          have hnext : (values ++ [value]).length + items.length ≤ size := by
            rw [List.length_append, List.length_singleton]
            omega
          rw [ok_bind, ok_bind, push_holding value (by omega), ok_bind, ih hnext]
          simp only [bind_assoc, pure_bind, List.append_assoc, List.singleton_append]

/-- Several values for each item, as many as were counted beforehand. -/
theorem foldlM_fills {width : A → ℕ} {produce : A → Except E (List B)}
    {step : Filling B → A → Except E (Filling B)} {items : List A}
    (hstep : ∀ item ∈ items, ∀ before, before.length + width item ≤ size →
      step (holding blank size before) item = (do
        let more ← produce item
        pure (holding blank size (before ++ more))))
    (hwidth : ∀ item ∈ items, ∀ more, produce item = .ok more → more.length = width item)
    (hroom : values.length + (items.map width).sum ≤ size) :
    items.foldlM step (holding blank size values) = (do
      let lists ← items.mapM produce
      pure (holding blank size (values ++ lists.flatten))) := by
  induction items generalizing values with
  | nil =>
      rw [List.foldlM_nil, List.mapM_nil, pure_bind, List.flatten_nil, List.append_nil]
  | cons item items ih =>
      rw [List.map_cons, List.sum_cons] at hroom
      rw [List.foldlM_cons, List.mapM_cons, hstep item List.mem_cons_self values (by omega)]
      cases hproduced : produce item with
      | error reason => rfl
      | ok more =>
          have hlength := hwidth item List.mem_cons_self more hproduced
          have hnext : (values ++ more).length + (items.map width).sum ≤ size := by
            rw [List.length_append]
            omega
          have hrest := ih (fun other hother => hstep other (List.mem_cons_of_mem item hother))
            (fun other hother => hwidth other (List.mem_cons_of_mem item hother)) hnext
          rw [ok_bind, pure_bind, hrest, ok_bind]
          simp only [bind_assoc, pure_bind, List.append_assoc, List.flatten_cons]

end Filling

end SetProtocol.Transaction
