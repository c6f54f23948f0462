/-
**Calls that fail.**

A plan of failures says which calls fail, and how: all calls of an operation, or only those for one
name. A failing call has no effect on the world.
-/

import NodeStorage.Error
import NodeStorage.Time.Instant

namespace NodeStorage.InMemory

/-- The errors of calls, by operation or by operation and name. -/
abbrev Failures := List (String × Error)

namespace Failures

/-- The error planned under a key. -/
def lookup? (failures : Failures) (key : String) : Option Error :=
  (failures.find? fun entry => entry.1 == key).map Prod.snd

/-- The error of a call: the one planned for its name, or else for its operation. -/
def of? (failures : Failures) (operation name : String) : Option Error :=
  (failures.lookup? (String.join [operation, ":", name])).or (failures.lookup? operation)

/-- What a call answers and does: the planned error and nothing, or what it does without one. -/
def guard {α State : Type} (failures : Failures) (operation name : String) (state : State)
    (perform : State → Outcome α × State) : Outcome α × State :=
  match failures.of? operation name with
  | some cause => (.error cause, state)
  | none => perform state

end Failures

/-- A clock that is a second later whenever it is read, so that no two readings are the same. -/
structure Clock where
  next : Instant
  deriving DecidableEq, Repr, Inhabited

/-- Reads the clock. -/
def Clock.read (clock : Clock) : Instant × Clock :=
  (clock.next, ⟨{ clock.next with seconds := clock.next.seconds + 1 }⟩)

end NodeStorage.InMemory
