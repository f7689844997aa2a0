import SetProtocol.Library.FlaggedList
import SetProtocol.Library.History

/-!
# Permissions over a history

A program keeps the accounts it permits in a list and in a flag map.  Batches set single
accounts, a reset empties both, and nothing else touches them.  Then both agree at all
times, and whoever is permitted has been set by the latest batch that names him, with no
reset since.
-/

namespace SetProtocol.Roster

open FlaggedList Transaction

variable {A O : Type*}

/-- The latest call that sets this sets it to true, and nothing has been reset since. -/
def LatestSetting (setting : O → Option Bool) (resets : O → Prop) (past : List O) : Prop :=
  Since (fun entry => setting entry = some true)
    (fun entry => setting entry ≠ none ∨ resets entry) past

theorem LatestSetting.snoc {setting : O → Option Bool} {resets : O → Prop} {past : List O}
    {entry : O} (hlatest : LatestSetting setting resets past) (hnone : setting entry = none)
    (hkeeps : ¬resets entry) : LatestSetting setting resets (past ++ [entry]) :=
  Since.snoc hlatest fun hcloses => hcloses.elim (· hnone) hkeeps

/-- Every permission is in the history, and none is left while the program is off. -/
structure Recorded (setting : A → O → Option Bool) (resets : O → Prop) (past : List O)
    (active : Prop) (entries : List A) (flag : A → Bool) : Prop where
  agrees : Agrees entries flag
  empty : ¬active → entries = []
  latest : ∀ account, flag account = true → LatestSetting (setting account) resets past

variable {setting : A → O → Option Bool} {resets : O → Prop} {past : List O} {entry : O}
variable {active stays : Prop} {entries updated : List A} {flag : A → Bool}

/-- A map in which nobody is left. -/
theorem recorded_of_cleared (hagrees : Agrees ([] : List A) flag) :
    Recorded setting resets past active [] flag :=
  ⟨hagrees, fun _ => rfl, fun account htrue =>
    absurd htrue (Bool.eq_false_iff.mp (hagrees.flag_eq_false account))⟩

theorem Recorded.active_of_flag (hrecorded : Recorded setting resets past active entries flag)
    {account : A} (htrue : flag account = true) : active := by
  by_contra hoff
  have hmem := (hrecorded.agrees.mem_iff account).mp htrue
  rw [hrecorded.empty hoff] at hmem
  exact List.not_mem_nil hmem

/-- A call that says nothing of permissions. -/
theorem Recorded.keep (hrecorded : Recorded setting resets past active entries flag)
    (hactive : active → stays) (hnone : ∀ account, setting account entry = none)
    (hkeeps : ¬resets entry) :
    Recorded setting resets (past ++ [entry]) stays entries flag :=
  ⟨hrecorded.agrees, fun hoff => hrecorded.empty fun hon => hoff (hactive hon),
    fun account htrue => (hrecorded.latest account htrue).snoc (hnone account) hkeeps⟩

/-- A reset while the program is off finds nobody permitted. -/
theorem Recorded.reset (hrecorded : Recorded setting resets past active entries flag)
    (hoff : ¬active) (later : List O) (stays : Prop) :
    Recorded setting resets later stays entries flag := by
  obtain rfl := hrecorded.empty hoff
  exact recorded_of_cleared hrecorded.agrees

/-- One entry of a batch. -/
theorem agrees_of_set [DecidableEq A] {account : A} {status : Bool}
    (hagrees : Agrees entries flag)
    (hadded : status = true → account ∉ entries → updated = entries ++ [account])
    (hremoved : status = false → account ∈ entries → updated.Perm (entries.erase account))
    (hsame : (status = true ↔ account ∈ entries) → updated = entries) :
    Agrees updated (Function.update flag account status) := by
  by_cases hmem : account ∈ entries
  · have hflag : flag account = true := (hagrees.mem_iff account).mpr hmem
    cases status with
    | true =>
        rw [hsame (iff_of_true rfl hmem), ← hflag, Function.update_eq_self]
        exact hagrees
    | false => exact (hagrees.erase account).perm (hremoved rfl hmem)
  · have hflag : flag account ≠ true := fun htrue => hmem ((hagrees.mem_iff account).mp htrue)
    cases status with
    | true =>
        rw [hadded rfl hmem]
        exact hagrees.push hflag
    | false =>
        rw [hsame (iff_of_false Bool.false_ne_true hmem),
          ← Bool.eq_false_iff.mpr hflag, Function.update_eq_self]
        exact hagrees

/-- After the loop over a batch the last entry of an account counts. -/
theorem flag_of_batch [DecidableEq A] {E S : Type*} {body : S → A × Bool → Except E S}
    {flagOf : S → A → Bool}
    (hbody : ∀ state entry next, body state entry = .ok next →
      flagOf next = Function.update (flagOf state) entry.1 entry.2)
    {batch : List (A × Bool)} {state final : S} (hloop : batch.foldlM body state = .ok final)
    (account : A) :
    flagOf final account = (batch.reverse.lookup account).getD (flagOf state account) := by
  induction batch using List.reverseRecOn generalizing final with
  | nil =>
      rw [List.foldlM_nil, pure_eq_ok] at hloop
      subst hloop
      rfl
  | append_singleton batch last ih =>
      rw [List.foldlM_append, bind_eq_ok] at hloop
      obtain ⟨middle, hmiddle, hlast⟩ := hloop
      rw [List.foldlM_cons, bind_eq_ok] at hlast
      obtain ⟨next, hnext, hend⟩ := hlast
      rw [List.foldlM_nil, pure_eq_ok] at hend
      subst hend
      rw [hbody _ _ _ hnext, List.reverse_append, List.reverse_singleton,
        List.singleton_append, List.lookup_cons]
      by_cases hsame : account = last.1
      · simp [hsame]
      · have hbeq : (account == last.1) = false := beq_false_of_ne hsame
        simp [hsame, hbeq, ih hmiddle]

theorem Recorded.batch [DecidableEq A] {after : A → Bool} {batch : List (A × Bool)}
    (hrecorded : Recorded setting resets past active entries flag) (hon : stays)
    (hagrees : Agrees updated after)
    (hafter : ∀ account,
      after account = (batch.reverse.lookup account).getD (flag account))
    (hsetting : ∀ account, setting account entry = batch.reverse.lookup account)
    (hkeeps : ¬resets entry) :
    Recorded setting resets (past ++ [entry]) stays updated after := by
  refine ⟨hagrees, fun hoff => absurd hon hoff, fun account htrue => ?_⟩
  rw [hafter] at htrue
  cases hlast : batch.reverse.lookup account with
  | none =>
      rw [hlast] at htrue
      exact (hrecorded.latest account htrue).snoc ((hsetting account).trans hlast) hkeeps
  | some status =>
      rw [hlast] at htrue
      exact since_snoc_of_opens
        ((hsetting account).trans (hlast.trans (congrArg some htrue)))

end SetProtocol.Roster
