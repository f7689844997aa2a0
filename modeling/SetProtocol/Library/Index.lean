import SetProtocol.Library.SwapRemoval
import Mathlib.Algebra.BigOperators.Group.Finset.Basic
import Mathlib.Algebra.Order.BigOperators.Group.Finset

/-!
# Lists that index a predicate

A store whose map has no enumeration keeps a list of the keys in use.  `Indexes`
says that the list enumerates exactly the keys with a property, each once.  The
rules below follow a store that appends a key when the property begins to hold
of it, and drops the key when it ceases to.
-/

namespace SetProtocol.Index

variable {A : Type*}

/-- The list enumerates the values with the property, without duplicates. -/
structure Indexes (entries : List A) (present : A → Prop) : Prop where
  nodup : entries.Nodup
  mem_iff : ∀ value, value ∈ entries ↔ present value

variable {entries rest : List A} {present next : A → Prop} {value : A}

theorem Indexes.congr (hindex : Indexes entries present)
    (hsame : ∀ other, next other ↔ present other) : Indexes entries next :=
  ⟨hindex.nodup, fun other => (hindex.mem_iff other).trans (hsame other).symm⟩

/-- Appending the one value that gained the property. -/
theorem Indexes.push (hindex : Indexes entries present) (hfresh : ¬present value)
    (hnext : ∀ other, next other ↔ present other ∨ other = value) :
    Indexes (entries ++ [value]) next := by
  have hnew : value ∉ entries := fun hmem => hfresh ((hindex.mem_iff value).mp hmem)
  refine ⟨?_, fun other => ?_⟩
  · rw [List.nodup_append_comm, List.singleton_append]
    exact List.nodup_cons.mpr ⟨hnew, hindex.nodup⟩
  · rw [List.mem_append, List.mem_singleton, hindex.mem_iff, hnext]

/-- Dropping the one value that lost the property, in whatever order the rest
is left. -/
theorem Indexes.remove [DecidableEq A] (hindex : Indexes entries present)
    (hrest : rest.Perm (entries.erase value))
    (hnext : ∀ other, next other ↔ other ≠ value ∧ present other) :
    Indexes rest next := by
  obtain ⟨hnodup, hmem⟩ := SwapRemoval.nodup_and_mem_of_perm_erase hindex.nodup hrest
  refine ⟨hnodup, fun other => ?_⟩
  rw [hmem, hindex.mem_iff, hnext]

/-! ## Lists with more than they need -/

/-- The list has every value that is due, and maybe others, without duplicates. -/
structure Covers (entries : List A) (due : A → Prop) : Prop where
  nodup : entries.Nodup
  mem_of_due : ∀ value, due value → value ∈ entries

namespace Covers

variable {due : A → Prop}

/-- No value became due that is not listed. -/
theorem mono (hcovers : Covers entries due)
    (hnext : ∀ other, next other → other ∉ entries → due other) : Covers entries next := by
  refine ⟨hcovers.nodup, fun other hother => ?_⟩
  by_contra hnew
  exact hnew (hcovers.mem_of_due other (hnext other hother hnew))

theorem prune {keep : A → Bool} (hcovers : Covers entries due)
    (hrest : rest.Perm (entries.filter keep)) (hkeep : ∀ other, due other → keep other = true) :
    Covers rest due := by
  refine ⟨hrest.nodup_iff.mpr (hcovers.nodup.filter keep), fun other hother => ?_⟩
  rw [hrest.mem_iff, List.mem_filter]
  exact ⟨hcovers.mem_of_due other hother, hkeep other hother⟩

theorem remove [DecidableEq A] (hcovers : Covers entries due)
    (hrest : rest.Perm (entries.erase value)) (hvalue : ¬due value) : Covers rest due := by
  obtain ⟨hnodup, hmem⟩ := SwapRemoval.nodup_and_mem_of_perm_erase hcovers.nodup hrest
  refine ⟨hnodup, fun other hother => ?_⟩
  rw [hmem]
  exact ⟨fun heq => hvalue (heq ▸ hother), hcovers.mem_of_due other hother⟩

theorem push (hcovers : Covers entries due) (hnew : value ∉ entries)
    (hnext : ∀ other, other ≠ value → next other → due other) :
    Covers (entries ++ [value]) next := by
  constructor
  · rw [List.nodup_append_comm, List.singleton_append]
    exact List.nodup_cons.mpr ⟨hnew, hcovers.nodup⟩
  · intro other hother
    rw [List.mem_append, List.mem_singleton]
    by_cases heq : other = value
    · exact Or.inr heq
    · exact Or.inl (hcovers.mem_of_due other (hnext other heq hother))

end Covers

/-- Two enumerations add up the same weights, as long as the one enumerates what the
other leaves out only where it weighs nothing. -/
theorem sum_le_of_support {K : Type*} [AddCommMonoid K] [PartialOrder K]
    [IsOrderedAddMonoid K] {others : List A} {weight : A → K} (hnodup : entries.Nodup)
    (hothers : others.Nodup) (hnonneg : ∀ value, 0 ≤ weight value)
    (hsupport : ∀ value ∈ entries, weight value ≠ 0 → value ∈ others) :
    (entries.map weight).sum ≤ (others.map weight).sum := by
  classical
  rw [← List.sum_toFinset weight hnodup, ← List.sum_toFinset weight hothers]
  calc ∑ value ∈ entries.toFinset, weight value
      = ∑ value ∈ entries.toFinset with value ∈ others, weight value :=
        (Finset.sum_filter_of_ne fun value hvalue =>
          hsupport value (List.mem_toFinset.mp hvalue)).symm
    _ ≤ ∑ value ∈ others.toFinset, weight value := by
        refine Finset.sum_le_sum_of_subset_of_nonneg (fun value hvalue => ?_)
          fun value _ _ => hnonneg value
        exact List.mem_toFinset.mpr (Finset.mem_filter.mp hvalue).2

end SetProtocol.Index
