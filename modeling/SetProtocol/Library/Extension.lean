import SetProtocol.Library.Transaction

/-!
# Answers that stay

A call extends another one if it answers wherever that one does, and the same.  A program
whose parts are replaced by extensions is extended as a whole: what it answered it goes on
answering.
-/

namespace SetProtocol.Transaction

universe u v w

variable {E : Type v} {A B S : Type u} {I : Type w}

/-- What the first call answers the second one answers too. -/
def Extended (first second : Except E A) : Prop :=
  ∀ value, first = .ok value → second = .ok value

theorem Extended.refl (call : Except E A) : Extended call call := fun _ hcall => hcall

theorem Extended.bind {first second : Except E A} {following other : A → Except E B}
    (hfirst : Extended first second)
    (hnext : ∀ value, first = .ok value → Extended (following value) (other value)) :
    Extended (first >>= following) (second >>= other) := by
  intro result hresult
  obtain ⟨value, hvalue, hrest⟩ := bind_eq_ok.mp hresult
  exact bind_eq_ok.mpr ⟨value, hfirst value hvalue, hnext value hvalue result hrest⟩

theorem Extended.foldlM {body other : S → I → Except E S} {items : List I}
    (hbody : ∀ item ∈ items, ∀ state, Extended (body state item) (other state item))
    (state : S) : Extended (items.foldlM body state) (items.foldlM other state) := by
  induction items generalizing state with
  | nil => exact Extended.refl _
  | cons item items ih =>
      rw [List.foldlM_cons, List.foldlM_cons]
      exact (hbody item List.mem_cons_self state).bind fun next _ =>
        ih (fun later hlater => hbody later (List.mem_cons_of_mem _ hlater)) next

end SetProtocol.Transaction
