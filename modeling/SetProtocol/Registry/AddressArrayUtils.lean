import SetProtocol.Arithmetic.SafeMath
import SetProtocol.Library.SwapRemoval

/-!
# Address arrays

The helpers of `AddressArrayUtils`.  Arrays are lists; `remove` builds a new
array entry by entry, `removeStorage` overwrites the removed entry with the last
one.  Both are compared with erasing the first occurrence.
-/

namespace SetProtocol.AddressArrayUtils

open Transaction

/-- Reading outside of an array aborts the call. -/
def readEntry (A : List Address) (index : ℕ) : Outcome Address :=
  match A[index]? with
  | some entry => .ok entry
  | none => .error "invalid opcode"

/-- Writing outside of an array aborts the call. -/
def writeEntry (A : List Address) (index : ℕ) (entry : Address) :
    Outcome (List Address) :=
  if index < A.length then .ok (A.set index entry) else .error "invalid opcode"

/-- The loop of `indexOf`, from position `index` on. -/
def indexOfFrom (a : Address) : ℕ → List Address → ℕ × Bool
  | _, [] => (maxUint256, false)
  | index, current :: rest =>
      if current = a then (index, true) else indexOfFrom a (index + 1) rest

/-- Index of the first occurrence, and whether there is one. -/
def indexOf (A : List Address) (a : Address) : ℕ × Bool := indexOfFrom a 0 A

def contains (A : List Address) (a : Address) : Bool := (indexOf A a).2

/-- The two nested loops of `hasDuplicate`. -/
def hasDuplicateFrom : List Address → Bool
  | [] => false
  | current :: rest =>
      if rest.any (fun other => current == other) then true
      else hasDuplicateFrom rest

def hasDuplicate (A : List Address) : Outcome Bool := do
  require (0 < A.length) "A is empty"
  pure (hasDuplicateFrom A)

/-- A copying loop: `count` entries of `source` from `start` on are written to
`target` from `offset` on. -/
def copyEntries (source : List Address) (start offset count : ℕ)
    (target : List Address) : Outcome (List Address) :=
  (List.range count).foldlM (fun copied step => do
    let entry ← readEntry source (start + step)
    writeEntry copied (offset + step) entry) target

/-- The array without position `index`, and the entry that stood there. -/
def pop (A : List Address) (index : ℕ) : Outcome (List Address × Address) := do
  require (index < A.length) "Index must be < A length"
  let newAddresses := List.replicate (A.length - 1) zeroAddress
  let newAddresses ← copyEntries A 0 0 index newAddresses
  let newAddresses ←
    copyEntries A (index + 1) index (A.length - (index + 1)) newAddresses
  let removed ← readEntry A index
  pure (newAddresses, removed)

def remove (A : List Address) (a : Address) : Outcome (List Address) :=
  match indexOf A a with
  | (index, isIn) =>
      if isIn = false then .error "Address not in array."
      else do
        let popped ← pop A index
        pure popped.1

def removeStorage (A : List Address) (a : Address) : Outcome (List Address) :=
  match indexOf A a with
  | (index, isIn) =>
      if isIn = false then .error "Address not in array."
      else do
        let lastIndex := A.length - 1
        let A ←
          if index ≠ lastIndex then do
            let last ← readEntry A lastIndex
            writeEntry A index last
          else pure A
        pure A.dropLast

def extend (A B : List Address) : Outcome (List Address) := do
  let newAddresses := List.replicate (A.length + B.length) zeroAddress
  let newAddresses ← copyEntries A 0 0 A.length newAddresses
  copyEntries B 0 A.length B.length newAddresses

def validateLengthAndUniqueness (A : List Address) : Outcome Unit := do
  require (0 < A.length) "Array length must be > 0"
  let duplicate ← hasDuplicate A
  require (duplicate = false) "Cannot duplicate addresses"

/-- All variants of this function only look at the length of the second array. -/
def validatePairsWithArray {B : Type} (A : List Address) (paired : List B) :
    Outcome Unit := do
  require (A.length = paired.length) "Array length mismatch"
  validateLengthAndUniqueness A

/-! ## Searching -/

theorem indexOfFrom_of_mem {a : Address} {A : List Address} (hmem : a ∈ A)
    (index : ℕ) : indexOfFrom a index A = (index + A.idxOf a, true) := by
  induction A generalizing index with
  | nil => simp at hmem
  | cons current rest ih =>
      by_cases hhead : current = a
      · subst hhead
        simp [indexOfFrom]
      · have hrest : a ∈ rest := by
          rcases List.mem_cons.mp hmem with heq | hrest
          · exact absurd heq.symm hhead
          · exact hrest
        rw [indexOfFrom, if_neg hhead, ih hrest, List.idxOf_cons_ne _ hhead]
        congr 1
        omega

theorem indexOfFrom_of_not_mem {a : Address} {A : List Address} (hmem : a ∉ A)
    (index : ℕ) : indexOfFrom a index A = (maxUint256, false) := by
  induction A generalizing index with
  | nil => rfl
  | cons current rest ih =>
      rw [List.mem_cons, not_or] at hmem
      rw [indexOfFrom, if_neg (Ne.symm hmem.1), ih hmem.2]

theorem indexOf_of_mem {a : Address} {A : List Address} (hmem : a ∈ A) :
    indexOf A a = (A.idxOf a, true) := by
  rw [indexOf, indexOfFrom_of_mem hmem, Nat.zero_add]

theorem indexOf_of_not_mem {a : Address} {A : List Address} (hmem : a ∉ A) :
    indexOf A a = (maxUint256, false) :=
  indexOfFrom_of_not_mem hmem 0

@[simp]
theorem contains_eq_true {A : List Address} {a : Address} :
    contains A a = true ↔ a ∈ A := by
  by_cases hmem : a ∈ A
  · simp [contains, indexOf_of_mem hmem, hmem]
  · simp [contains, indexOf_of_not_mem hmem, hmem]

theorem contains_eq_false {A : List Address} {a : Address} :
    contains A a = false ↔ a ∉ A := by
  rw [← Bool.not_eq_true, contains_eq_true]

theorem hasDuplicateFrom_eq_false {A : List Address} :
    hasDuplicateFrom A = false ↔ A.Nodup := by
  induction A with
  | nil => simp [hasDuplicateFrom]
  | cons current rest ih =>
      rw [hasDuplicateFrom, List.nodup_cons]
      by_cases hmem : current ∈ rest
      · simp [hmem]
      · simp [hmem, ih]

@[simp]
theorem hasDuplicate_eq_ok_false {A : List Address} :
    hasDuplicate A = .ok false ↔ A ≠ [] ∧ A.Nodup := by
  simp only [hasDuplicate, bind_eq_ok, require_eq_ok, pure_eq_ok, exists_const,
    hasDuplicateFrom_eq_false, List.length_pos_iff]

/-! ## Copying and removing -/

theorem readEntry_of_lt {A : List Address} {index : ℕ} (hindex : index < A.length) :
    readEntry A index = .ok A[index] := by
  simp [readEntry, hindex]

/-- A copying loop that stays inside both arrays replaces a block of the target. -/
theorem copyEntries_eq (source target : List Address) (start offset count : ℕ)
    (hsource : start + count ≤ source.length)
    (htarget : offset + count ≤ target.length) :
    copyEntries source start offset count target =
      .ok (target.take offset ++ (source.drop start).take count ++
        target.drop (offset + count)) := by
  induction count with
  | zero => simp [copyEntries, pure, Except.pure]
  | succ count ih =>
      rw [copyEntries, List.range_succ, List.foldlM_append]
      have hcopied := ih (by omega) (by omega)
      rw [copyEntries] at hcopied
      rw [hcopied, ok_bind]
      have hread : start + count < source.length := by omega
      have hwrite : offset + count < target.length := by omega
      have hfront : (target.take offset ++ (source.drop start).take count).length =
          offset + count := by
        simp only [List.length_append, List.length_take, List.length_drop]
        omega
      have hlength : (target.take offset ++ (source.drop start).take count ++
          target.drop (offset + count)).length = target.length := by
        rw [List.length_append, hfront, List.length_drop]
        omega
      simp only [List.foldlM_cons, List.foldlM_nil, readEntry_of_lt hread,
        ok_bind, writeEntry, hlength, hwrite, if_true]
      rw [List.set_append_right _ _ (by omega), hfront, Nat.sub_self,
        ← List.cons_getElem_drop_succ (h := hwrite), List.set_cons_zero]
      have htake : (source.drop start).take (count + 1) =
          (source.drop start).take count ++ [source[start + count]] := by
        rw [List.take_succ_eq_append_getElem (by simp; omega)]
        simp
      rw [htake]
      simp [pure, Except.pure, Nat.add_assoc]

theorem pop_eq {A : List Address} {index : ℕ} (hindex : index < A.length) :
    pop A index = .ok (A.eraseIdx index, A[index]) := by
  have hlow := copyEntries_eq A (List.replicate (A.length - 1) zeroAddress) 0 0 index
    (by omega) (by simp only [List.length_replicate]; omega)
  simp only [List.take_zero, List.drop_zero, List.nil_append, Nat.zero_add,
    List.drop_replicate] at hlow
  have hfront : (A.take index).length = index := List.length_take_of_le hindex.le
  have hhigh := copyEntries_eq A
    (A.take index ++ List.replicate (A.length - 1 - index) zeroAddress)
    (index + 1) index (A.length - (index + 1))
    (by omega) (by simp only [List.length_append, hfront, List.length_replicate]; omega)
  have hrest : (A.drop (index + 1)).take (A.length - (index + 1)) =
      A.drop (index + 1) := List.take_of_length_le (by rw [List.length_drop])
  have hnone : (A.take index ++ List.replicate (A.length - 1 - index)
      zeroAddress).drop (index + (A.length - (index + 1))) = [] := by
    apply List.drop_eq_nil_of_le
    simp only [List.length_append, hfront, List.length_replicate]
    omega
  rw [List.take_left' hfront, hrest, hnone, List.append_nil,
    ← List.eraseIdx_eq_take_drop_succ] at hhigh
  simp only [pop, require, hindex, if_true, hlow, hhigh, ok_bind,
    readEntry_of_lt hindex]
  rfl

/-- `remove` deletes the first occurrence and keeps the order of the rest. -/
@[simp]
theorem remove_eq_ok {A B : List Address} {a : Address} :
    remove A a = .ok B ↔ a ∈ A ∧ A.erase a = B := by
  by_cases hmem : a ∈ A
  · have hindex : A.idxOf a < A.length := List.idxOf_lt_length_of_mem hmem
    simp only [remove, indexOf_of_mem hmem, pop_eq hindex, ok_bind, pure_eq_ok,
      Bool.true_eq_false, if_false, hmem, true_and]
    rw [List.erase_eq_eraseIdx_of_idxOf rfl]
  · simp [remove, indexOf_of_not_mem hmem, hmem]

/-- `removeStorage` overwrites the first occurrence with the last entry. -/
theorem removeStorage_eq_swapRemove {A : List Address} {a last : Address} (hmem : a ∈ A)
    (hlast : A.getLast? = some last) :
    removeStorage A a = .ok (SwapRemoval.swapRemove A (A.idxOf a) last) := by
  have hindex : A.idxOf a < A.length := List.idxOf_lt_length_of_mem hmem
  have hend : A.length - 1 < A.length := by omega
  rw [List.getLast?_eq_getElem?, List.getElem?_eq_getElem hend, Option.some.injEq] at hlast
  subst hlast
  simp only [removeStorage, indexOf_of_mem hmem, readEntry_of_lt hend, ok_bind,
    writeEntry, hindex, if_true, Bool.true_eq_false, if_false]
  by_cases hindexEnd : A.idxOf a = A.length - 1
  · simp only [hindexEnd, ne_eq, not_true_eq_false, if_false, SwapRemoval.swapRemove,
      List.set_getElem_self]
    rfl
  · simp only [ne_eq, hindexEnd, not_false_eq_true, if_true]
    rfl

/-- `removeStorage` deletes one occurrence, at the price of the order. -/
theorem removeStorage_of_mem {A : List Address} {a : Address} (hmem : a ∈ A) :
    ∃ B, removeStorage A a = .ok B ∧ B.Perm (A.erase a) := by
  obtain ⟨last, hlast⟩ : ∃ last, A.getLast? = some last :=
    ⟨_, List.getLast?_eq_some_getLast (List.ne_nil_of_mem hmem)⟩
  refine ⟨_, removeStorage_eq_swapRemove hmem hlast, ?_⟩
  rw [List.erase_eq_eraseIdx_of_idxOf rfl]
  exact SwapRemoval.swapRemove_perm_eraseIdx (List.idxOf_lt_length_of_mem hmem) last hlast

theorem removeStorage_of_not_mem {A : List Address} {a : Address} (hmem : a ∉ A) :
    removeStorage A a = .error "Address not in array." := by
  simp [removeStorage, indexOf_of_not_mem hmem]

theorem removeStorage_eq_ok {A B : List Address} {a : Address}
    (hremove : removeStorage A a = .ok B) : a ∈ A ∧ B.Perm (A.erase a) := by
  by_cases hmem : a ∈ A
  · obtain ⟨C, hC, hperm⟩ := removeStorage_of_mem hmem
    rw [hremove, Except.ok.injEq] at hC
    exact ⟨hmem, hC ▸ hperm⟩
  · rw [removeStorage_of_not_mem hmem] at hremove
    cases hremove

/-- Removing a listed address does not revert. -/
theorem revertsOnly_removeStorage {A : List Address} {a : Address}
    {allowed : String → Prop} (hmem : a ∈ A) : RevertsOnly allowed (removeStorage A a) := by
  obtain ⟨B, hB, -⟩ := removeStorage_of_mem hmem
  rw [hB]
  exact revertsOnly_pure B

theorem extend_eq (A B : List Address) : extend A B = .ok (A ++ B) := by
  have hfirst := copyEntries_eq A
    (List.replicate (A.length + B.length) zeroAddress) 0 0 A.length
    (by omega) (by simp only [List.length_replicate]; omega)
  simp only [List.take_zero, List.drop_zero, List.nil_append, Nat.zero_add,
    List.take_length, List.drop_replicate, Nat.add_sub_cancel_left] at hfirst
  have hsecond := copyEntries_eq B (A ++ List.replicate B.length zeroAddress) 0
    A.length B.length
    (by omega) (by simp)
  have hnone : (A ++ List.replicate B.length zeroAddress).drop
      (A.length + B.length) = [] := List.drop_eq_nil_of_le (by simp)
  rw [List.drop_zero, List.take_length, List.take_left, hnone,
    List.append_nil] at hsecond
  simp only [extend, hfirst, ok_bind, hsecond]

end SetProtocol.AddressArrayUtils
