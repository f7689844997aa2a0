import SetProtocol.Library.Transaction

/-!
# Loops that return early

A loop whose body may return stops at the first item for which it does.  Where no turn
reverts, such a loop is a search, and two bodies that agree turn by turn make the same loop.
A loop over one array that reads another one along with it reverts where that one ends.
-/

namespace SetProtocol.Transaction

universe u v

variable {E : Type v} {S A R : Type*}

/-- Run the body over the items until it returns a result. -/
def untilReturn (body : A → Except E (Option R)) : List A → Except E (Option R)
  | [] => .ok none
  | item :: items => do
      match ← body item with
      | some result => .ok (some result)
      | none => untilReturn body items

theorem untilReturn_eq_findSome? {body : A → Except E (Option R)} {found : A → Option R}
    {items : List A} (hbody : ∀ item ∈ items, body item = .ok (found item)) :
    untilReturn body items = .ok (items.findSome? found) := by
  induction items with
  | nil => rfl
  | cons item items ih =>
      rw [untilReturn, hbody item List.mem_cons_self, ok_bind, List.findSome?_cons]
      cases found item with
      | some result => rfl
      | none => exact ih fun other hother => hbody other (List.mem_cons_of_mem item hother)

theorem foldlM_congr {first second : S → A → Except E S} {items : List A}
    (hsame : ∀ item ∈ items, ∀ state, first state item = second state item) (state : S) :
    items.foldlM first state = items.foldlM second state := by
  induction items generalizing state with
  | nil => rfl
  | cons item items ih =>
      rw [List.foldlM_cons, List.foldlM_cons, hsame item List.mem_cons_self]
      have hrest : (fun next => items.foldlM first next) =
          fun next => items.foldlM second next := by
        funext next
        exact ih (fun other hother => hsame other (List.mem_cons_of_mem item hother)) next
      rw [hrest]

/-- Compute a value for each item, of which the entry at the same index is read as well. -/
def mapAlong {B C : Type*} (outside : E) (body : A → B → Except E C) :
    List A → List B → Except E (List C)
  | [], _ => .ok []
  | _ :: _, [] => .error outside
  | item :: items, entry :: entries => do
      let value ← body item entry
      let values ← mapAlong outside body items entries
      pure (value :: values)

/-- Arrays over the same keys do not end before each other. -/
theorem mapAlong_map {K B : Type*} {C : Type u} {outside : E} {body : A → B → Except E C}
    {ofItem : K → A} {ofEntry : K → B} {keys : List K} :
    mapAlong outside body (keys.map ofItem) (keys.map ofEntry) =
      keys.mapM fun key => body (ofItem key) (ofEntry key) := by
  induction keys with
  | nil => rfl
  | cons key keys ih =>
      rw [List.map_cons, List.map_cons, mapAlong, ih, List.mapM_cons]

end SetProtocol.Transaction
