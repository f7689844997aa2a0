import Mathlib.Data.List.Basic
import Mathlib.Tactic.Common

/-!
# Journals

A journal lists what has happened, oldest event first, and is replayed from the state at
its beginning.  Entries that do not change the state they meet may be left out.
-/

namespace SetProtocol.Journal

variable {E S : Type*} {apply : S → E → S} {start : S} {earlier later : List E}

/-- The state after the events of a journal. -/
def replay (apply : S → E → S) (start : S) (events : List E) : S :=
  events.foldl apply start

@[simp]
theorem replay_nil : replay apply start [] = start := rfl

@[simp]
theorem replay_singleton {event : E} : replay apply start [event] = apply start event := rfl

theorem replay_append :
    replay apply start (earlier ++ later) =
      replay apply (replay apply start earlier) later :=
  List.foldl_append

end SetProtocol.Journal
