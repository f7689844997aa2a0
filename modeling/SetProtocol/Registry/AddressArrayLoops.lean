import SetProtocol.Registry.AddressArrayUtils
import SetProtocol.Arithmetic.Overflow
import SetProtocol.Library.Loops

/-!
# The loops of the address arrays

The functions of `AddressArrayUtils` once more, index by index and with the unchecked
arithmetic of the compiler.  They compute what the functions on lists compute, also on a
machine that stops at any number that would wrap, so that no index does.
-/

namespace SetProtocol.AddressArrayLoops

open Transaction AddressArrayUtils

/-- The values of a counter from `start` up to a limit.  Below the limit it is incremented
without wrapping around. -/
def counts (start limit : ℕ) : List ℕ := List.range' start (limit - start)

def indexOf (A : List Address) (a : Address) : Outcome (ℕ × Bool) := do
  let length := A.length
  let returned ← untilReturn (fun i => do
    let entry ← readEntry A i
    pure (if entry = a then some i else none)) (counts 0 length)
  match returned with
  | some i => pure (i, true)
  | none => pure (maxUint256, false)

def contains (A : List Address) (a : Address) : Outcome Bool := do
  let (_, isIn) ← indexOf A a
  pure isIn

def hasDuplicate (overflow : Overflow) (A : List Address) : Outcome Bool := do
  require (0 < A.length) "A is empty"
  let limit ← overflow.sub A.length 1
  let returned ← untilReturn (fun i => do
    let current ← readEntry A i
    let start ← overflow.add i 1
    untilReturn (fun j => do
      let entry ← readEntry A j
      pure (if current = entry then some () else none)) (counts start A.length))
    (counts 0 limit)
  pure returned.isSome

def pop (overflow : Overflow) (A : List Address) (index : ℕ) :
    Outcome (List Address × Address) := do
  let length := A.length
  require (index < A.length) "Index must be < A length"
  let size ← overflow.sub length 1
  let newAddresses := List.replicate size zeroAddress
  let newAddresses ← (counts 0 index).foldlM (fun copied i => do
    let entry ← readEntry A i
    writeEntry copied i entry) newAddresses
  let start ← overflow.add index 1
  let newAddresses ← (counts start length).foldlM (fun copied j => do
    let target ← overflow.sub j 1
    let entry ← readEntry A j
    writeEntry copied target entry) newAddresses
  let removed ← readEntry A index
  pure (newAddresses, removed)

def remove (overflow : Overflow) (A : List Address) (a : Address) :
    Outcome (List Address) := do
  let (index, isIn) ← indexOf A a
  if isIn = false then .error "Address not in array."
  else do
    let (popped, _) ← pop overflow A index
    pure popped

/-- `pop` of an array in storage, which aborts the call if there is no entry left. -/
def popEntry (A : List Address) : Outcome (List Address) :=
  if 0 < A.length then .ok A.dropLast else .error "invalid opcode"

def removeStorage (overflow : Overflow) (A : List Address) (a : Address) :
    Outcome (List Address) := do
  let (index, isIn) ← indexOf A a
  if isIn = false then .error "Address not in array."
  else do
    let lastIndex ← overflow.sub A.length 1
    let A ← (
      if index ≠ lastIndex then do
        let last ← readEntry A lastIndex
        writeEntry A index last
      else pure A)
    popEntry A

def extend (overflow : Overflow) (A B : List Address) : Outcome (List Address) := do
  let aLength := A.length
  let bLength := B.length
  let length ← overflow.add aLength bLength
  let newAddresses := List.replicate length zeroAddress
  let newAddresses ← (counts 0 aLength).foldlM (fun copied i => do
    let entry ← readEntry A i
    writeEntry copied i entry) newAddresses
  (counts 0 bLength).foldlM (fun copied j => do
    let target ← overflow.add aLength j
    let entry ← readEntry B j
    writeEntry copied target entry) newAddresses

/-- Arrays of the machine: their entries, 32 bytes each, have 256-bit addresses. -/
def FitsMemory (A : List Address) : Prop := 32 * A.length ≤ maxUint256

instance (A : List Address) : Decidable (FitsMemory A) :=
  inferInstanceAs (Decidable (_ ≤ _))

/-! ## Searching -/

variable {overflow : Overflow} {A B : List Address} {a : Address} {index : ℕ}

@[simp]
theorem mem_counts {start limit value : ℕ} :
    value ∈ counts start limit ↔ start ≤ value ∧ value < limit := by
  rw [counts, List.mem_range'_1]
  omega

theorem counts_split {start middle limit : ℕ} (hstart : start ≤ middle)
    (hlimit : middle < limit) :
    counts start limit = counts start middle ++ middle :: counts (middle + 1) limit := by
  have hhead : counts middle limit = middle :: counts (middle + 1) limit := by
    rw [counts, counts, ← List.range'_succ]
    congr 1
    omega
  rw [← hhead, counts, counts, counts]
  have hmiddle : start + (middle - start) = middle := by omega
  have hcount : limit - start = middle - start + (limit - middle) := by omega
  rw [hcount, ← List.range'_append_1, hmiddle]

theorem getElem?_idxOf (hmem : a ∈ A) : A[A.idxOf a]? = some a := by
  rw [List.getElem?_eq_getElem (List.idxOf_lt_length_of_mem hmem), List.getElem_idxOf]

/-- The first index is the least one. -/
theorem idxOf_le_of_getElem? (hentry : A[index]? = some a) : A.idxOf a ≤ index := by
  by_contra hless
  rw [not_le, List.idxOf] at hless
  have hskipped := List.not_of_lt_findIdx hless
  obtain ⟨_, hvalue⟩ := List.getElem?_eq_some_iff.mp hentry
  simp [hvalue] at hskipped

theorem indexOf_eq : indexOf A a = .ok (AddressArrayUtils.indexOf A a) := by
  have hturns : ∀ i ∈ counts 0 A.length, (do
      let entry ← readEntry A i
      pure (if entry = a then some i else none) : Outcome (Option ℕ)) =
        .ok (if A[i]? = some a then some i else none) := by
    intro i hi
    rw [mem_counts] at hi
    rw [readEntry_of_lt hi.2, ok_bind, List.getElem?_eq_getElem hi.2]
    simp only [Option.some.injEq]
    rfl
  rw [indexOf, untilReturn_eq_findSome? hturns, ok_bind]
  by_cases hmem : a ∈ A
  · have hindex := List.idxOf_lt_length_of_mem hmem
    have hearlier : (counts 0 (A.idxOf a)).findSome? (fun i =>
        if A[i]? = some a then some i else none) = none := by
      rw [List.findSome?_eq_none_iff]
      intro i hi
      rw [mem_counts] at hi
      rw [if_neg fun hentry => absurd (idxOf_le_of_getElem? hentry) (not_le.mpr hi.2)]
    rw [counts_split (Nat.zero_le _) hindex, List.findSome?_append, hearlier,
      Option.none_or, List.findSome?_cons, if_pos (getElem?_idxOf hmem),
      indexOf_of_mem hmem]
    rfl
  · have hnone : (counts 0 A.length).findSome? (fun i =>
        if A[i]? = some a then some i else none) = none := by
      rw [List.findSome?_eq_none_iff]
      intro i hi
      rw [if_neg fun hentry => hmem (List.mem_of_getElem? hentry)]
    rw [hnone, indexOf_of_not_mem hmem]
    rfl

theorem FitsMemory.length_le (hfits : FitsMemory A) : A.length ≤ maxUint256 := by
  rw [FitsMemory] at hfits
  omega

/-- The entry at the outer counter stands again behind it. -/
def repeatsAfter (A : List Address) (i : ℕ) : Option Unit :=
  (counts (i + 1) A.length).findSome? fun j => if A[i]? = A[j]? then some () else none

theorem repeatsAfter_isSome {i : ℕ} : (repeatsAfter A i).isSome = true ↔
    ∃ j, i < j ∧ j < A.length ∧ A[i]? = A[j]? := by
  rw [repeatsAfter, List.findSome?_isSome_iff]
  constructor
  · rintro ⟨j, hj, hfound⟩
    rw [mem_counts] at hj
    refine ⟨j, hj.1, hj.2, ?_⟩
    by_contra hother
    rw [if_neg hother] at hfound
    cases hfound
  · rintro ⟨j, hlow, hhigh, hsame⟩
    exact ⟨j, mem_counts.mpr ⟨hlow, hhigh⟩, by rw [if_pos hsame]; rfl⟩

theorem not_nodup_iff : ¬A.Nodup ↔ ∃ i j, i < j ∧ j < A.length ∧ A[i]? = A[j]? := by
  rw [List.nodup_iff_getElem?_ne_getElem?]
  push Not
  rfl

/-- The counters reach every pair of indices. -/
theorem repeats_eq_hasDuplicateFrom :
    ((counts 0 (A.length - 1)).findSome? (repeatsAfter A)).isSome = hasDuplicateFrom A := by
  have hpairs : hasDuplicateFrom A = true ↔ ¬A.Nodup := by
    rw [← hasDuplicateFrom_eq_false, Bool.not_eq_false]
  rw [Bool.eq_iff_iff, hpairs, not_nodup_iff, List.findSome?_isSome_iff]
  constructor
  · rintro ⟨i, -, hfound⟩
    exact ⟨i, repeatsAfter_isSome.mp hfound⟩
  · rintro ⟨i, j, hlow, hhigh, hsame⟩
    exact ⟨i, mem_counts.mpr ⟨Nat.zero_le i, by omega⟩,
      repeatsAfter_isSome.mpr ⟨j, hlow, hhigh, hsame⟩⟩

theorem hasDuplicate_eq (hfits : A.length ≤ maxUint256) :
    hasDuplicate overflow A = AddressArrayUtils.hasDuplicate A := by
  by_cases hempty : A.length = 0
  · simp [hasDuplicate, AddressArrayUtils.hasDuplicate, hempty, require]
    rfl
  have hpositive : 0 < A.length := Nat.pos_of_ne_zero hempty
  have hinner : ∀ i < A.length, ∀ j ∈ counts (i + 1) A.length, ∀ current,
      A[i]? = some current → (do
        let entry ← readEntry A j
        pure (if current = entry then some () else none) : Outcome (Option Unit)) =
          .ok (if A[i]? = A[j]? then some () else none) := by
    intro i hi j hj current hcurrent
    rw [mem_counts] at hj
    rw [readEntry_of_lt hj.2, ok_bind, hcurrent, List.getElem?_eq_getElem hj.2]
    simp only [Option.some.injEq]
    rfl
  have houter : ∀ i ∈ counts 0 (A.length - 1), (do
      let current ← readEntry A i
      let start ← overflow.add i 1
      untilReturn (fun j => do
        let entry ← readEntry A j
        pure (if current = entry then some () else none)) (counts start A.length)) =
          Except.ok (repeatsAfter A i) := by
    intro i hi
    rw [mem_counts] at hi
    have hindex : i < A.length := by omega
    rw [readEntry_of_lt hindex, ok_bind, overflow.add_of_le (by omega), ok_bind]
    exact untilReturn_eq_findSome? fun j hj =>
      hinner i hindex j hj A[i] (List.getElem?_eq_getElem hindex)
  rw [hasDuplicate, AddressArrayUtils.hasDuplicate, require, if_pos hpositive, ok_bind,
    overflow.sub_of_le hpositive hfits, ok_bind, untilReturn_eq_findSome? houter, ok_bind,
    repeats_eq_hasDuplicateFrom]
  rfl

/-! ## Copying -/

/-- A loop over a counter that copies entry by entry. -/
theorem copyingLoop_eq {source target : List Address} {start offset limit : ℕ}
    {body : List Address → ℕ → Outcome (List Address)}
    (hbody : ∀ step < limit - start, ∀ copied, body copied (start + step) = do
      let entry ← readEntry source (start + step)
      writeEntry copied (offset + step) entry) :
    (counts start limit).foldlM body target =
      copyEntries source start offset (limit - start) target := by
  rw [counts, List.range'_eq_map_range, List.foldlM_map, copyEntries]
  exact foldlM_congr (fun step hstep copied => hbody step (List.mem_range.mp hstep) copied) _

theorem pop_eq (hfits : A.length ≤ maxUint256) :
    pop overflow A index = AddressArrayUtils.pop A index := by
  by_cases hindex : index < A.length
  · have hlow : (counts 0 index).foldlM (fun copied i => do
        let entry ← readEntry A i
        writeEntry copied i entry) (List.replicate (A.length - 1) zeroAddress) =
          copyEntries A 0 0 index (List.replicate (A.length - 1) zeroAddress) := by
      apply copyingLoop_eq
      intro step _ copied
      rfl
    have hhigh : ∀ target, (counts (index + 1) A.length).foldlM (fun copied j => do
        let target ← overflow.sub j 1
        let entry ← readEntry A j
        writeEntry copied target entry) target =
          copyEntries A (index + 1) index (A.length - (index + 1)) target := by
      intro target
      apply copyingLoop_eq
      intro step hstep copied
      have hback : index + 1 + step - 1 = index + step := by omega
      rw [overflow.sub_of_le (by omega) (by omega), ok_bind, hback]
    have hsize := overflow.sub_of_le (Nat.one_le_of_lt hindex) hfits
    have hstart : overflow.add index 1 = .ok (index + 1) := by
      apply overflow.add_of_le
      omega
    simp only [pop, AddressArrayUtils.pop, require, if_pos hindex, ok_bind, hsize, hlow,
      hstart, hhigh]
  · simp only [pop, AddressArrayUtils.pop, require, if_neg hindex]
    rfl

theorem remove_eq (hfits : A.length ≤ maxUint256) :
    remove overflow A a = AddressArrayUtils.remove A a := by
  rw [remove, indexOf_eq, ok_bind, AddressArrayUtils.remove]
  rcases AddressArrayUtils.indexOf A a with ⟨index, isIn⟩
  simp only [pop_eq hfits]

theorem removeStorage_eq (hfits : A.length ≤ maxUint256) :
    removeStorage overflow A a = AddressArrayUtils.removeStorage A a := by
  rw [removeStorage, indexOf_eq, ok_bind, AddressArrayUtils.removeStorage]
  by_cases hmem : a ∈ A
  · have hindex := List.idxOf_lt_length_of_mem hmem
    have hpositive : 0 < A.length := Nat.zero_lt_of_lt hindex
    have hlength : ∀ last, 0 < (A.set (A.idxOf a) last).length := by
      intro last
      rw [List.length_set]
      exact hpositive
    simp only [indexOf_of_mem hmem, Bool.true_eq_false, if_false,
      overflow.sub_of_le hpositive hfits, ok_bind]
    split
    · simp only [readEntry_of_lt (Nat.sub_lt hpositive Nat.one_pos), ok_bind, writeEntry,
        hindex, if_true, popEntry, hlength]
      rfl
    · change popEntry A = _
      rw [popEntry, if_pos hpositive]
      rfl
  · simp [indexOf_of_not_mem hmem]

theorem extend_eq (hfits : A.length + B.length ≤ maxUint256) :
    extend overflow A B = AddressArrayUtils.extend A B := by
  have hfirst : ∀ target, (counts 0 A.length).foldlM (fun copied i => do
      let entry ← readEntry A i
      writeEntry copied i entry) target = copyEntries A 0 0 A.length target := by
    intro target
    apply copyingLoop_eq
    intro step _ copied
    rfl
  have hsecond : ∀ target, (counts 0 B.length).foldlM (fun copied j => do
      let target ← overflow.add A.length j
      let entry ← readEntry B j
      writeEntry copied target entry) target =
        copyEntries B 0 A.length B.length target := by
    intro target
    apply copyingLoop_eq
    intro step hstep copied
    rw [Nat.zero_add, overflow.add_of_le (by omega), ok_bind]
  simp only [extend, AddressArrayUtils.extend, overflow.add_of_le hfits, ok_bind, hfirst,
    hsecond]

/-! ## What the helpers do -/

theorem indexOf_spec : ∃ index isIn, indexOf A a = .ok (index, isIn) ∧
    (isIn = true ↔ a ∈ A) ∧
    (isIn = true → A[index]? = some a ∧ ∀ other, A[other]? = some a → index ≤ other) := by
  rw [indexOf_eq]
  by_cases hmem : a ∈ A
  · refine ⟨A.idxOf a, true, by rw [indexOf_of_mem hmem], by simp [hmem], fun _ => ?_⟩
    exact ⟨getElem?_idxOf hmem, fun _ hentry => idxOf_le_of_getElem? hentry⟩
  · refine ⟨maxUint256, false, by rw [indexOf_of_not_mem hmem], by simp [hmem], fun hin => ?_⟩
    cases hin

theorem hasDuplicate_spec (hfits : A.length ≤ maxUint256) (hne : A ≠ []) :
    ∃ found, hasDuplicate overflow A = .ok found ∧
      (found = true ↔
        ∃ i j : ℕ, i ≠ j ∧ ∃ entry, A[i]? = some entry ∧ A[j]? = some entry) := by
  refine ⟨hasDuplicateFrom A, ?_, ?_⟩
  · rw [hasDuplicate_eq hfits, AddressArrayUtils.hasDuplicate, require,
      if_pos (List.length_pos_iff.mpr hne)]
    rfl
  · have hpairs : hasDuplicateFrom A = true ↔ ¬A.Nodup := by
      rw [← hasDuplicateFrom_eq_false, Bool.not_eq_false]
    rw [hpairs, not_nodup_iff]
    constructor
    · rintro ⟨i, j, hless, hindex, hsame⟩
      have hentry := List.getElem?_eq_getElem hindex
      exact ⟨i, j, hless.ne, A[j], hsame.trans hentry, hentry⟩
    · rintro ⟨i, j, hne, entry, hi, hj⟩
      rcases Nat.lt_or_gt_of_ne hne with hless | hless
      · exact ⟨i, j, hless, (List.getElem?_eq_some_iff.mp hj).1, hi.trans hj.symm⟩
      · exact ⟨j, i, hless, (List.getElem?_eq_some_iff.mp hi).1, hj.trans hi.symm⟩

theorem remove_spec {C : List Address} (hfits : A.length ≤ maxUint256) :
    remove overflow A a = .ok C ↔
      ∃ front back, A = front ++ a :: back ∧ a ∉ front ∧ C = front ++ back := by
  rw [remove_eq hfits, AddressArrayUtils.remove_eq_ok]
  constructor
  · rintro ⟨hmem, rfl⟩
    obtain ⟨front, back, hnot, hsplit, herase⟩ := List.exists_erase_eq hmem
    exact ⟨front, back, hsplit, hnot, herase⟩
  · rintro ⟨front, back, rfl, hnot, rfl⟩
    refine ⟨List.mem_append_right front List.mem_cons_self, ?_⟩
    rw [List.erase_append_right _ hnot, List.erase_cons_head]

theorem removeStorage_spec (hfits : A.length ≤ maxUint256) :
    ((∃ C, removeStorage overflow A a = .ok C) ↔ a ∈ A) ∧
      ∀ C, removeStorage overflow A a = .ok C → A.Perm (a :: C) := by
  simp only [removeStorage_eq hfits]
  refine ⟨⟨fun ⟨C, hremoved⟩ => (removeStorage_eq_ok hremoved).1, fun hmem => ?_⟩,
    fun C hremoved => ?_⟩
  · obtain ⟨C, hremoved, -⟩ := removeStorage_of_mem hmem
    exact ⟨C, hremoved⟩
  · obtain ⟨hmem, hperm⟩ := removeStorage_eq_ok hremoved
    exact (List.perm_cons_erase hmem).trans (hperm.symm.cons a)

/-- Removals from a list without duplicates remove that member. -/
theorem removed_of_nodup {C : List Address} (hfits : A.length ≤ maxUint256)
    (hnodup : A.Nodup)
    (hremoved : remove overflow A a = .ok C ∨ removeStorage overflow A a = .ok C) :
    C.Nodup ∧ ∀ other, other ∈ C ↔ other ∈ A ∧ other ≠ a := by
  have hperm : C.Perm (A.erase a) := by
    rcases hremoved with hremoved | hremoved
    · rw [remove_eq hfits, AddressArrayUtils.remove_eq_ok] at hremoved
      exact hremoved.2 ▸ List.Perm.refl _
    · rw [removeStorage_eq hfits] at hremoved
      exact (removeStorage_eq_ok hremoved).2
  obtain ⟨hleft, hmem⟩ := SwapRemoval.nodup_and_mem_of_perm_erase hnodup hperm
  exact ⟨hleft, fun other => (hmem other).trans and_comm⟩

/-- No read or write outside of an array, and nothing that wraps. -/
theorem revertsOnly_pop (hfits : A.length ≤ maxUint256) :
    RevertsOnly (fun reason => reason = "Index must be < A length")
      (pop overflow A index) := by
  rw [pop_eq hfits]
  by_cases hindex : index < A.length
  · rw [AddressArrayUtils.pop_eq hindex]
    exact revertsOnly_pure _
  · rw [AddressArrayUtils.pop, require, if_neg hindex]
    exact revertsOnly_error rfl

theorem revertsOnly_remove (hfits : A.length ≤ maxUint256) :
    RevertsOnly (fun reason => reason = "Address not in array.")
      (remove overflow A a) := by
  rw [remove_eq hfits]
  by_cases hmem : a ∈ A
  · rw [AddressArrayUtils.remove_eq_ok.mpr ⟨hmem, rfl⟩]
    exact revertsOnly_pure _
  · rw [AddressArrayUtils.remove, indexOf_of_not_mem hmem]
    exact revertsOnly_error rfl

theorem revertsOnly_removeEntry (hfits : A.length ≤ maxUint256) :
    RevertsOnly (fun reason => reason = "Address not in array.")
      (removeStorage overflow A a) := by
  rw [removeStorage_eq hfits]
  by_cases hmem : a ∈ A
  · exact revertsOnly_removeStorage hmem
  · rw [removeStorage_of_not_mem hmem]
    exact revertsOnly_error rfl

theorem revertsOnly_hasDuplicate (hfits : A.length ≤ maxUint256) :
    RevertsOnly (fun reason => reason = "A is empty") (hasDuplicate overflow A) := by
  rw [hasDuplicate_eq hfits, AddressArrayUtils.hasDuplicate]
  exact RevertsOnly.bind (revertsOnly_require fun _ => rfl) fun _ _ => revertsOnly_pure _

/-- The address helpers are what their names say, for every array that fits into memory. -/
theorem addressArray_helpers (overflow : Overflow) (a : Address) (hA : FitsMemory A)
    (hB : FitsMemory B) :
    (∃ index isIn, indexOf A a = .ok (index, isIn) ∧ (isIn = true ↔ a ∈ A) ∧
      (isIn = true →
        A[index]? = some a ∧ ∀ other, A[other]? = some a → index ≤ other)) ∧
    (A ≠ [] → ∃ found, hasDuplicate overflow A = .ok found ∧
      (found = true ↔
        ∃ i j : ℕ, i ≠ j ∧ ∃ entry, A[i]? = some entry ∧ A[j]? = some entry)) ∧
    ((∃ C, remove overflow A a = .ok C) ↔ a ∈ A) ∧
    (∀ C, remove overflow A a = .ok C →
      ∃ front back, A = front ++ a :: back ∧ a ∉ front ∧ C = front ++ back) ∧
    ((∃ C, removeStorage overflow A a = .ok C) ↔ a ∈ A) ∧
    (∀ C, removeStorage overflow A a = .ok C → A.Perm (a :: C)) ∧
    extend overflow A B = .ok (A ++ B) ∧
    (A.Nodup → ∀ C, remove overflow A a = .ok C ∨ removeStorage overflow A a = .ok C →
      C.Nodup ∧ ∀ other, other ∈ C ↔ other ∈ A ∧ other ≠ a) ∧
    RevertsOnly (fun reason => reason = "A is empty") (hasDuplicate overflow A) ∧
    RevertsOnly (fun reason => reason = "Address not in array.") (remove overflow A a) ∧
    RevertsOnly (fun reason => reason = "Address not in array.")
      (removeStorage overflow A a) ∧
    ∀ index, RevertsOnly (fun reason => reason = "Index must be < A length")
      (pop overflow A index) := by
  have hlength := hA.length_le
  have hextend : extend overflow A B = .ok (A ++ B) := by
    rw [FitsMemory, maxUint256] at hA hB
    rw [extend_eq (by rw [maxUint256]; omega), AddressArrayUtils.extend_eq]
  have hremove : (∃ C, remove overflow A a = .ok C) ↔ a ∈ A := by
    simp only [remove_eq hlength, AddressArrayUtils.remove_eq_ok, exists_and_left,
      exists_eq', and_true]
  exact ⟨indexOf_spec, hasDuplicate_spec hlength, hremove,
    fun C => (remove_spec hlength).mp, (removeStorage_spec hlength).1,
    (removeStorage_spec hlength).2, hextend,
    fun hnodup C => removed_of_nodup hlength hnodup, revertsOnly_hasDuplicate hlength,
    revertsOnly_remove hlength, revertsOnly_removeEntry hlength,
    fun index => revertsOnly_pop hlength⟩

theorem addressArray_helpers_three :
    remove .stops [7, 5, 7] 7 = .ok [5, 7] ∧ removeStorage .stops [7, 5, 7] 7 = .ok [7, 5] ∧
      extend .stops [7, 5, 7] [8] = .ok [7, 5, 7, 8] := by
  have hhelpers := @addressArray_helpers [7, 5, 7] [8] .stops 7 (by decide) (by decide)
  exact ⟨by decide, by decide, hhelpers.2.2.2.2.2.2.1⟩

end SetProtocol.AddressArrayLoops
