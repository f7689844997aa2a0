import Mathlib.Data.List.Perm.Basic
import Mathlib.Data.List.Nodup

/-!
# Removing an element of an unordered list

An unordered list can drop an entry by overwriting it with the last one and
shortening the list.  The order changes, the remaining entries do not: the
result is a permutation of the list with that entry erased.  Two lists in parallel stay
so if both drop the same position, and otherwise hardly ever.
-/

namespace SetProtocol.SwapRemoval

variable {A B : Type*}

/-- Overwrite position `index` with the last entry, then drop the last one. -/
def swapRemove (values : List A) (index : ℕ) (last : A) : List A :=
  (values.set index last).dropLast

theorem swapRemove_perm_eraseIdx {values : List A} {index : ℕ}
    (hindex : index < values.length) (last : A)
    (hlast : values.getLast? = some last) :
    (swapRemove values index last).Perm (values.eraseIdx index) := by
  obtain ⟨front, rfl⟩ := List.getLast?_eq_some_iff.mp hlast
  unfold swapRemove
  by_cases hfront : index < front.length
  · rw [List.set_append_left _ _ hfront, List.dropLast_concat,
      List.eraseIdx_append_of_lt_length hfront]
    exact (List.set_perm_cons_eraseIdx hfront last).trans
      (List.perm_append_singleton last _).symm
  · have hend : index = front.length := by
      simp only [List.length_append, List.length_singleton] at hindex
      omega
    subst hend
    simp [List.set_append_right, List.eraseIdx_append_of_length_le]

/-- Erasing an entry of a duplicate-free list removes exactly that member. -/
theorem nodup_and_mem_of_perm_erase [DecidableEq A] {values rest : List A}
    {removed : A} (hnodup : values.Nodup) (hperm : rest.Perm (values.erase removed)) :
    rest.Nodup ∧ ∀ value, value ∈ rest ↔ value ≠ removed ∧ value ∈ values := by
  refine ⟨hperm.nodup_iff.mpr (hnodup.erase removed), fun value => ?_⟩
  rw [hperm.mem_iff, hnodup.mem_erase_iff]

theorem map_swapRemove (f : A → B) (values : List A) (index : ℕ) (last : A) :
    (swapRemove values index last).map f = swapRemove (values.map f) index (f last) := by
  rw [swapRemove, swapRemove, List.map_dropLast, List.map_set]

/-- If two removals agree, each of two different positions held the last entry. -/
theorem getElem_eq_last_of_swapRemove_eq {values : List A} {first second : ℕ} {last : A}
    (hfirst : first < values.length) (hlast : values.getLast? = some last)
    (hne : first ≠ second)
    (hsame : swapRemove values first last = swapRemove values second last) :
    values[first] = last := by
  obtain ⟨front, rfl⟩ := List.getLast?_eq_some_iff.mp hlast
  by_cases hfront : first < front.length
  · have hentry := congrArg (fun rest => rest[first]?) hsame
    simpa [swapRemove, List.getElem?_dropLast, List.getElem?_set, hfront, hne, hne.symm,
      List.getElem_append_left hfront, eq_comm] using hentry
  · have hend : first = front.length := by
      rw [List.length_append, List.length_singleton] at hfirst
      omega
    subst hend
    simp

/-- Removals at two positions agree exactly if the positions or their entries make no
difference. -/
theorem swapRemove_eq_iff {values : List A} {first second : ℕ} {last : A}
    (hfirst : first < values.length) (hsecond : second < values.length)
    (hlast : values.getLast? = some last) :
    swapRemove values first last = swapRemove values second last ↔
      first = second ∨ values[first] = last ∧ values[second] = last := by
  constructor
  · intro hsame
    by_cases heq : first = second
    · exact Or.inl heq
    · exact Or.inr ⟨getElem_eq_last_of_swapRemove_eq hfirst hlast heq hsame,
        getElem_eq_last_of_swapRemove_eq hsecond hlast (Ne.symm heq) hsame.symm⟩
  · rintro (rfl | ⟨hone, htwo⟩)
    · rfl
    · rw [swapRemove, swapRemove, ← hone, List.set_getElem_self, hone, ← htwo,
        List.set_getElem_self]

end SetProtocol.SwapRemoval
