import SetProtocol.Library.Rounding
import Mathlib.Algebra.Order.BigOperators.Group.List
import Mathlib.Data.List.Nodup
import Mathlib.Data.List.Perm.Basic
import Mathlib.Tactic.Ring

/-!
# Tallies over listed keys

Amounts are kept under the keys of a list without repetitions.  Their total follows the
change of one amount and the coming and going of keys, and a total that is shared out
and rounded down piece by piece never exceeds the rounded total.
-/

namespace SetProtocol.Tally

variable {K : Type*} [DecidableEq K]

/-- The total of the listed amounts. -/
def total (keys : List K) (amounts : K → ℕ) : ℕ := (keys.map amounts).sum

variable {keys : List K} {amounts others : K → ℕ} {key : K} {amount : ℕ}

omit [DecidableEq K] in
theorem total_append (first second : List K) :
    total (first ++ second) amounts = total first amounts + total second amounts := by
  rw [total, List.map_append, List.sum_append, total, total]

omit [DecidableEq K] in
theorem total_singleton (key : K) : total [key] amounts = amounts key := by simp [total]

omit [DecidableEq K] in
theorem total_congr (hsame : ∀ other ∈ keys, others other = amounts other) :
    total keys others = total keys amounts := by
  rw [total, total, List.map_congr_left hsame]

omit [DecidableEq K] in
theorem total_pos_iff : 0 < total keys amounts ↔ ∃ other ∈ keys, 0 < amounts other := by
  rw [total, Nat.pos_iff_ne_zero, ne_eq, List.sum_eq_zero_iff]
  simp [Nat.pos_iff_ne_zero]

omit [DecidableEq K] in
theorem le_total (hmem : key ∈ keys) : amounts key ≤ total keys amounts :=
  List.le_sum_of_mem (List.mem_map_of_mem hmem)

theorem total_erase (hmem : key ∈ keys) :
    total (keys.erase key) amounts + amounts key = total keys amounts := by
  have hperm := ((List.perm_cons_erase hmem).map amounts).sum_eq
  rw [total, total, hperm, List.map_cons, List.sum_cons, Nat.add_comm]

/-- Two listed keys. -/
theorem add_le_total {other : K} (hmem : key ∈ keys) (hother : other ∈ keys)
    (hne : other ≠ key) : amounts other + amounts key ≤ total keys amounts := by
  rw [← total_erase hmem]
  exact Nat.add_le_add_right (le_total ((List.mem_erase_of_ne hne).mpr hother)) _

/-- One amount of a listed key replaced. -/
theorem total_update (hnodup : keys.Nodup) (hmem : key ∈ keys) :
    total keys (Function.update amounts key amount) + amounts key =
      total keys amounts + amount := by
  have hothers : total (keys.erase key) (Function.update amounts key amount) =
      total (keys.erase key) amounts := by
    apply total_congr
    intro other hother
    have hne : other ≠ key := fun heq => hnodup.not_mem_erase (heq ▸ hother)
    rw [Function.update_of_ne hne]
  have hkey := @total_erase K _ keys (Function.update amounts key amount) key hmem
  have hbefore := @total_erase K _ keys amounts key hmem
  rw [hothers, Function.update_self] at hkey
  omega

/-- A new key listed at the end. -/
theorem total_push (hnew : key ∉ keys) :
    total (keys ++ [key]) (Function.update amounts key amount) =
      total keys amounts + amount := by
  have hothers : total keys (Function.update amounts key amount) = total keys amounts := by
    apply total_congr
    intro other hother
    have hne : other ≠ key := fun heq => hnew (heq ▸ hother)
    rw [Function.update_of_ne hne]
  rw [total] at hothers ⊢
  simp [hothers]

omit [DecidableEq K] in
/-- Shares of the amounts, rounded down one by one. -/
theorem total_scaled_le (factor : ℕ) {scale : ℕ} (hscale : 0 < scale) :
    total keys (fun key => amounts key * factor / scale) ≤
      total keys amounts * factor / scale := by
  rw [Nat.le_div_iff_mul_le hscale]
  induction keys with
  | nil => simp [total]
  | cons key keys ih =>
    have hkey : amounts key * factor / scale * scale ≤ amounts key * factor :=
      Nat.div_mul_le_self _ _
    simp only [total, List.map_cons, List.sum_cons, Nat.add_mul] at ih ⊢
    exact Nat.add_le_add hkey ih

omit [DecidableEq K] in
/-- By a multiple of the scale nothing is lost. -/
theorem total_scaled_of_scale {scale : ℕ} (hscale : 0 < scale) :
    total keys (fun key => amounts key * scale / scale) = total keys amounts :=
  total_congr fun other _ => Nat.mul_div_cancel (amounts other) hscale

/-! ## Rounding piece by piece -/

/-- What rounding down leaves of the scaled amounts. -/
def remainders (keys : List K) (amounts : K → ℕ) (factor scale : ℕ) : ℕ :=
  total keys fun key => amounts key * factor % scale

omit [DecidableEq K] in
theorem total_scaled_add_remainders (factor scale : ℕ) :
    scale * total keys (fun key => amounts key * factor / scale) +
      remainders keys amounts factor scale = total keys amounts * factor := by
  rw [remainders]
  induction keys with
  | nil => simp [total]
  | cons key keys ih =>
    have hkey := Nat.div_add_mod (amounts key * factor) scale
    simp only [total, List.map_cons, List.sum_cons, Nat.mul_add, Nat.add_mul] at ih ⊢
    omega

omit [DecidableEq K] in
/-- Nothing is lost exactly if the remainders do not make up another whole. -/
theorem total_scaled_eq_iff (factor : ℕ) {scale : ℕ} (hscale : 0 < scale) :
    total keys (fun key => amounts key * factor / scale) =
        total keys amounts * factor / scale ↔
      remainders keys amounts factor scale < scale := by
  have hparts := @total_scaled_add_remainders K keys amounts factor scale
  rw [← hparts, Nat.mul_add_div hscale]
  constructor
  · intro hsame
    by_contra hwhole
    have hpositive := Nat.div_pos (not_lt.mp hwhole) hscale
    omega
  · intro hless
    rw [Nat.div_eq_of_lt hless, Nat.add_zero]

/-- Some of the keys, those that round up, with a remainder. -/
def roundedUp (keys : List K) (up : K → Bool) (amounts : K → ℕ) (factor scale : ℕ) : ℕ :=
  total keys fun key => if up key = true ∧ amounts key * factor % scale ≠ 0 then 1 else 0

omit [DecidableEq K] in
theorem total_rounded (up : K → Bool) (factor : ℕ) {scale : ℕ} (hscale : 0 < scale) :
    total keys (fun key => if up key = true then amounts key * factor ⌈/⌉ scale
        else amounts key * factor / scale) =
      total keys (fun key => amounts key * factor / scale) +
        roundedUp keys up amounts factor scale := by
  rw [roundedUp]
  induction keys with
  | nil => simp [total]
  | cons key keys ih =>
    have hkey : (if up key = true then amounts key * factor ⌈/⌉ scale
        else amounts key * factor / scale) = amounts key * factor / scale +
          if up key = true ∧ amounts key * factor % scale ≠ 0 then 1 else 0 := by
      by_cases hup : up key = true
      · simp only [hup, if_true, true_and]
        exact Rounding.ceilDiv_eq_div_add _ hscale
      · simp [hup]
    simp only [total, List.map_cons, List.sum_cons] at ih ⊢
    rw [hkey, ih]
    omega

omit [DecidableEq K] in
/-- The total is met exactly if as many keys round up with a remainder as the remainders
make up wholes, rounded up. -/
theorem total_rounded_eq_iff (up : K → Bool) (factor : ℕ) {scale : ℕ} (hscale : 0 < scale) :
    total keys (fun key => if up key = true then amounts key * factor ⌈/⌉ scale
        else amounts key * factor / scale) = total keys amounts * factor ⌈/⌉ scale ↔
      roundedUp keys up amounts factor scale =
        remainders keys amounts factor scale ⌈/⌉ scale := by
  have hparts := @total_scaled_add_remainders K keys amounts factor scale
  have hwhole : total keys amounts * factor ⌈/⌉ scale =
      total keys (fun key => amounts key * factor / scale) +
        remainders keys amounts factor scale ⌈/⌉ scale := by
    rw [Rounding.ceilDiv_eq_div_add _ hscale, Rounding.ceilDiv_eq_div_add _ hscale, ← hparts,
      Nat.mul_add_div hscale, Nat.mul_add_mod]
    omega
  rw [total_rounded up factor hscale, hwhole, Nat.add_left_cancel_iff]

/-! ## Items of one kind -/

section Kinds

variable {I : Type*} {items : List I} {kind : I → K} {sizes : I → ℕ}

/-- The total of the items of a kind. -/
def totalOf (kind : I → K) (sizes : I → ℕ) (items : List I) (key : K) : ℕ :=
  total (items.filter fun item => decide (kind item = key)) sizes

theorem totalOf_eq_zero_iff :
    totalOf kind sizes items key = 0 ↔ ∀ item ∈ items, kind item = key → sizes item = 0 := by
  rw [totalOf, total, List.sum_eq_zero_iff, List.forall_mem_map]
  simp only [List.mem_filter, decide_eq_true_eq, and_imp]

/-- Nothing is of another kind exactly if whatever has a size is of this one. -/
theorem totalOf_others_iff :
    (∀ other, other ≠ key → totalOf kind sizes items other = 0) ↔
      ∀ item ∈ items, sizes item ≠ 0 → kind item = key := by
  simp only [totalOf_eq_zero_iff]
  constructor
  · intro hothers item hitem hsize
    by_contra hne
    exact hsize (hothers (kind item) hne item hitem rfl)
  · intro hkinds other hne item hitem hother
    by_contra hsize
    exact hne (hother.symm.trans (hkinds item hitem hsize))

theorem totalOf_eq_total (hkinds : ∀ item ∈ items, sizes item ≠ 0 → kind item = key) :
    totalOf kind sizes items key = total items sizes := by
  induction items with
  | nil => rfl
  | cons item items ih =>
      have hrest := ih fun other hother => hkinds other (List.mem_cons_of_mem item hother)
      rw [totalOf] at hrest ⊢
      rw [List.filter_cons]
      by_cases hkind : kind item = key
      · rw [if_pos (decide_eq_true hkind), total, List.map_cons, List.sum_cons, ← total, hrest]
        rfl
      · have hsize : sizes item = 0 := by
          by_contra hsome
          exact hkind (hkinds item List.mem_cons_self hsome)
        rw [if_neg (by simpa using hkind), hrest, total, total, List.map_cons, List.sum_cons,
          hsize, Nat.zero_add]

theorem totalOf_singleton (item : I) :
    totalOf kind sizes [item] = Function.update (fun _ => 0) (kind item) (sizes item) := by
  funext key
  by_cases hkind : kind item = key
  · subst hkind
    simp [totalOf, total]
  · rw [Function.update_of_ne (Ne.symm hkind)]
    simp [totalOf, total, hkind]

omit [DecidableEq K] in
theorem total_le_length_mul {bound : ℕ} (hbound : ∀ item ∈ items, sizes item ≤ bound) :
    total items sizes ≤ items.length * bound := by
  rw [total]
  have hsum := List.sum_le_card_nsmul (items.map sizes) bound (List.forall_mem_map.mpr hbound)
  rwa [List.length_map, smul_eq_mul] at hsum

end Kinds

end SetProtocol.Tally
