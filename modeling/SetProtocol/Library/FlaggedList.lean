import SetProtocol.Library.Index
import Mathlib.Logic.Function.Basic

/-!
# Lists with a membership flag

A registry keeps its entries in a list, to enumerate them, and in a flag map,
to look one up.  `Agrees` says that both describe the same duplicate-free
collection.  Pushing a fresh entry and erasing a listed one keep the agreement
when the flag is set and cleared alongside; marking every entry of a list at
once creates it exactly when the list has no duplicates, and unmarking every
entry leaves an empty collection.
-/

namespace SetProtocol.FlaggedList

open Index

variable {A : Type*}

/-- The list has no duplicates and the flag is up exactly on its entries. -/
structure Agrees (entries : List A) (flag : A → Bool) : Prop where
  nodup : entries.Nodup
  mem_iff : ∀ value, flag value = true ↔ value ∈ entries

theorem Agrees.empty : Agrees ([] : List A) (fun _ => false) :=
  ⟨List.nodup_nil, fun value => by simp⟩

theorem Agrees.flag_eq_false {flag : A → Bool} (hagrees : Agrees [] flag) (value : A) :
    flag value = false := by
  rw [← Bool.not_eq_true, hagrees.mem_iff]
  exact List.not_mem_nil

theorem Agrees.indexes {entries : List A} {flag : A → Bool}
    (hagrees : Agrees entries flag) : Indexes entries (fun value => flag value = true) :=
  ⟨hagrees.nodup, fun value => (hagrees.mem_iff value).symm⟩

theorem Agrees.of_indexes {entries : List A} {flag : A → Bool}
    (hindex : Indexes entries (fun value => flag value = true)) : Agrees entries flag :=
  ⟨hindex.nodup, fun value => (hindex.mem_iff value).symm⟩

/-- The order of the entries does not matter. -/
theorem Agrees.perm {entries others : List A} {flag : A → Bool}
    (hagrees : Agrees entries flag) (hperm : others.Perm entries) : Agrees others flag := by
  refine ⟨hperm.nodup_iff.mpr hagrees.nodup, fun value => ?_⟩
  rw [hagrees.mem_iff, hperm.mem_iff]

variable [DecidableEq A]

theorem Agrees.push {entries : List A} {flag : A → Bool} {value : A}
    (hagrees : Agrees entries flag) (hfresh : flag value ≠ true) :
    Agrees (entries ++ [value]) (Function.update flag value true) := by
  refine Agrees.of_indexes (hagrees.indexes.push hfresh fun other => ?_)
  by_cases heq : other = value
  · simp [heq]
  · simp [heq]

theorem Agrees.erase {entries : List A} {flag : A → Bool}
    (hagrees : Agrees entries flag) (value : A) :
    Agrees (entries.erase value) (Function.update flag value false) := by
  refine Agrees.of_indexes
    (hagrees.indexes.remove (List.Perm.refl _) fun other => ?_)
  by_cases heq : other = value
  · simp [heq]
  · simp [heq]

/-- Put the flag up on every entry of a list. -/
def mark (flag : A → Bool) (values : List A) : A → Bool :=
  values.foldl (fun current value => Function.update current value true) flag

theorem mark_eq_true {flag : A → Bool} {values : List A} {value : A} :
    mark flag values value = true ↔ flag value = true ∨ value ∈ values := by
  induction values generalizing flag with
  | nil => simp [mark]
  | cons head tail ih =>
      rw [mark, List.foldl_cons, ← mark, ih, List.mem_cons]
      by_cases heq : value = head
      · simp [heq]
      · simp [heq]

theorem agrees_mark_iff (values : List A) :
    Agrees values (mark (fun _ => false) values) ↔ values.Nodup := by
  refine ⟨Agrees.nodup, fun hnodup => ⟨hnodup, fun value => ?_⟩⟩
  simp [mark_eq_true]

/-- Marking fresh entries, each once, adds them to the collection. -/
theorem Agrees.mark {flag : A → Bool} {values : List A} (hagrees : Agrees [] flag)
    (hnodup : values.Nodup) : Agrees values (mark flag values) := by
  refine ⟨hnodup, fun value => ?_⟩
  rw [mark_eq_true, hagrees.mem_iff]
  simp

/-- Take the flag down from every entry of a list. -/
def unmark (flag : A → Bool) (values : List A) : A → Bool :=
  values.foldl (fun current value => Function.update current value false) flag

theorem unmark_eq_true {flag : A → Bool} {values : List A} {value : A} :
    unmark flag values value = true ↔ flag value = true ∧ value ∉ values := by
  induction values generalizing flag with
  | nil => simp [unmark]
  | cons head tail ih =>
      rw [unmark, List.foldl_cons, ← unmark, ih, List.mem_cons]
      by_cases heq : value = head
      · simp [heq]
      · simp [heq]

/-- Walking over all entries empties the collection. -/
theorem Agrees.unmark {entries : List A} {flag : A → Bool} (hagrees : Agrees entries flag) :
    Agrees [] (unmark flag entries) := by
  refine ⟨List.nodup_nil, fun value => ?_⟩
  rw [unmark_eq_true, hagrees.mem_iff]
  simp

end SetProtocol.FlaggedList
