/-
**What happens on a node in memory can happen to an agent.**

In the node in memory events have their times, and a wait takes what is ready in a fixed order.
Every run there has a log in which only what can happen does: what is said of all such logs holds on
the node.

* `Moves` — exchanges, with arrivals between them, lead from one state of the sources to another.
* `moves_respond` — the answer to one call, with the events that happen until then.
* `scheduled_of_leads` — every run has a scheduled log.
-/

import NodeStorage.InMemory.AgentWorld
import NodeStorage.Proofs.Discovery.Loop
import NodeStorage.Proofs.Discovery.Schedule
import NodeStorage.Proofs.InMemory.Refusals

namespace NodeStorage.InMemory

open Discovery Dialogue

/-! ### Moving on -/

/-- The sources can move on in this way while the agent says this. -/
def Moves (before : Sources) (exchanges : List AgentExchange) (after : Sources) : Prop :=
  ∃ log, said log = exchanges ∧ Scheduled before log ∧ before.afterwards log = after

namespace Moves

variable {first second third : Sources} {early late : List AgentExchange}

theorem stay (sources : Sources) : Moves sources [] sources :=
  ⟨[], rfl, trivial, rfl⟩

theorem trans (one : Moves first early second) (two : Moves second late third) :
    Moves first (early ++ late) third := by
  obtain ⟨front, rfl, scheduled, rfl⟩ := one
  obtain ⟨back, rfl, later, rfl⟩ := two
  exact ⟨front ++ back, List.filterMap_append, scheduled_append_iff.mpr ⟨scheduled, later⟩,
    List.foldl_append⟩

/-- Something arrives. -/
theorem arrival {sources : Sources} {arrival : Arrival}
    (allowed : sources.Allows (.arrives arrival)) :
    Moves sources [] (sources.after (.arrives arrival)) :=
  ⟨[.arrives arrival], rfl, ⟨allowed, trivial⟩, rfl⟩

/-- The agent says something. -/
theorem asks {sources : Sources} {exchange : AgentExchange}
    (allowed : sources.Allows (.asks exchange)) :
    Moves sources [exchange] (sources.after (.asks exchange)) :=
  ⟨[.asks exchange], rfl, ⟨allowed, trivial⟩, rfl⟩

/-- The agent says something and does not wait. -/
theorem talks (sources : Sources) {exchange : AgentExchange} (talks : waited? exchange = none) :
    Moves sources [exchange] sources := by
  have same : sources.after (.asks exchange) = sources := by
    rw [Sources.after, takesSignal, talks]
    rfl
  have moves : Moves sources [exchange] (sources.after (.asks exchange)) :=
    asks fun withSignals wake waits => by
      rw [talks] at waits
      cases waits
  rwa [same] at moves

end Moves

/-! ### The node -/

namespace AgentWorld

/-- What can end a wait in the world. -/
def sources (world : AgentWorld) : Sources :=
  ⟨world.stopped, world.waiting.toNat, world.isOpen⟩

theorem moves_happen (world : AgentWorld) (time : Nat) (event : NodeEvent) :
    Moves world.sources [] (world.happen time event).sources := by
  cases event with
  | signal =>
    cases opened : world.isOpen with
    | false =>
      have same : (world.happen time .signal).sources = world.sources := by
        simp [sources, happen, note, opened]
      rw [same]
      exact .stay _
    | true =>
      cases full : world.waiting with
      | true =>
        have same : (world.happen time .signal).sources = world.sources := by
          simp [sources, happen, note, full]
        rw [same]
        exact .stay _
      | false =>
        have more : (world.happen time .signal).sources =
            world.sources.after (.arrives .signal) := by
          simp [sources, happen, note, Sources.after, opened, full]
        rw [more]
        exact .arrival opened
  | closeSignals =>
    have closes : Moves world.sources [] (world.sources.after (.arrives .close)) := .arrival trivial
    exact closes
  | fail failures => exact .stay _
  | stop =>
    have stops : Moves world.sources [] (world.sources.after (.arrives .stop)) := .arrival trivial
    exact stops

theorem moves_passUntil (deadline : Nat) (world : AgentWorld) (course : List (Nat × NodeEvent)) :
    Moves world.sources [] (world.passUntil deadline course).sources := by
  induction course generalizing world with
  | nil => exact .stay _
  | cons entry course ih =>
    obtain ⟨time, event⟩ := entry
    rw [passUntil]
    split
    · exact (moves_happen world time event).trans (ih _)
    · exact .stay _

/-- What ends a wait at once is ready. -/
theorem moves_awake {world after : AgentWorld} {withSignals : Bool} {wake : Wake}
    (awake : world.awake? withSignals = some (wake, after)) (milliseconds : Nat) :
    Moves world.sources [⟨.wait milliseconds withSignals, wake⟩] after.sources := by
  have asks {wake : Wake} (ready : world.sources.Ready withSignals wake) :
      Moves world.sources [⟨.wait milliseconds withSignals, wake⟩]
        (world.sources.after (.asks ⟨.wait milliseconds withSignals, wake⟩)) :=
    .asks fun _ _ waits => by
      cases waits
      exact ready
  rw [awake?] at awake
  split at awake
  · rename_i stopped
    cases awake
    exact asks stopped
  · split at awake
    · rename_i signalled
      obtain ⟨listening, full⟩ := Bool.and_eq_true_iff.mp signalled
      cases awake
      have one : world.sources.signals = 1 := by
        rw [sources, full]
        rfl
      have taken : Sources.after world.sources (.asks ⟨.wait milliseconds withSignals, .signal⟩) =
          sources { world with waiting := false } := by
        show { world.sources with signals := world.sources.signals - 1 } = _
        rw [one]
        rfl
      have ready : world.sources.Ready withSignals .signal := ⟨listening, one ▸ Nat.one_pos⟩
      have moves := asks ready
      rwa [taken] at moves
    · split at awake
      · rename_i unsignalled closed
        obtain ⟨listening, shut⟩ := Bool.and_eq_true_iff.mp closed
        cases awake
        rw [listening, Bool.true_and, Bool.not_eq_true] at unsignalled
        have empty : world.sources.signals = 0 := by
          rw [sources, unsignalled]
          rfl
        have shutDown : world.sources.isOpen = false := Bool.not_eq_true' _ ▸ shut
        have ready : world.sources.Ready withSignals .closed := ⟨listening, empty, shutDown⟩
        exact asks ready
      · cases awake

/-- The interval may be over at any time. -/
theorem moves_interval (sources : Sources) (milliseconds : Nat) (withSignals : Bool) :
    Moves sources [⟨.wait milliseconds withSignals, .interval⟩] sources :=
  .asks fun _ _ waits => by
    cases waits
    trivial

theorem moves_waitUntil (deadline milliseconds : Nat) (withSignals : Bool) (world : AgentWorld)
    (course : List (Nat × NodeEvent)) :
    Moves world.sources
      [⟨.wait milliseconds withSignals, (world.waitUntil deadline withSignals course).1⟩]
      (world.waitUntil deadline withSignals course).2.sources := by
  induction course generalizing world with
  | nil =>
    rw [waitUntil]
    cases awake : world.awake? withSignals with
    | some found => exact moves_awake awake milliseconds
    | none => exact moves_interval _ _ _
  | cons entry course ih =>
    obtain ⟨time, event⟩ := entry
    rw [waitUntil]
    cases awake : world.awake? withSignals with
    | some found => exact moves_awake awake milliseconds
    | none =>
      dsimp only
      split
      · exact (moves_happen world time event).trans (ih _)
      · exact moves_interval _ _ _

/-- While the devices are listed events may happen. -/
theorem moves_list (world : AgentWorld) : Moves world.sources [] world.list.2.sources := by
  rw [list]
  cases world.listings with
  | nil => exact .stay _
  | cons listing rest =>
    obtain ⟨devices, delay⟩ := listing
    cases delay with
    | none => cases devices <;> exact .stay _
    | some delay =>
      have passed := moves_passUntil (world.now + delay)
        (note { world with listings := rest } .listingBegins) world.course
      cases devices <;> exact passed

/-- Other calls do not touch what can end a wait. -/
theorem sources_answer {call : Call} (inner : call.isInner = true) (world : AgentWorld) :
    (answer call world).2.sources = world.sources := by
  have guarded {α : Type} {operation name : String}
      {perform : AgentWorld → Outcome α × AgentWorld}
      (same : (perform world).2.sources = world.sources) :
      (world.failures.guard operation name world perform).2.sources = world.sources :=
    Failures.guard_keeps (P := (sources · = world.sources)) rfl same
  cases call with
  | listDevices | wait => cases inner
  | examine | clock => rfl
  | getResult | createResult | updateResultStatus | publish => exact guarded rfl

/-- **What the world answers, and what happens until then, can happen.** -/
theorem moves_respond (call : Call) (world : AgentWorld) :
    Moves world.sources [⟨call, (respond call world).1⟩] (respond call world).2.sources := by
  have logged : (respond call world).2.sources = (answer call world).2.sources := by
    rw [respond]
    dsimp only
    split <;> rfl
  rw [logged]
  cases call with
  | listDevices => exact (moves_list world).trans (.talks _ rfl)
  | wait milliseconds withSignals => exact moves_waitUntil _ _ _ _ _
  | examine | getResult | createResult | updateResultStatus | publish | clock =>
    rw [sources_answer rfl]
    exact .talks _ rfl

/-- **Every run on the node has a log in which only what can happen does.** -/
theorem scheduled_of_leads {world last : AgentWorld} {exchanges : List AgentExchange}
    (leads : Leads respond world exchanges last) :
    ∃ log, said log = exchanges ∧ Scheduled world.sources log := by
  have moves : Moves world.sources exchanges last.sources := by
    induction leads with
    | stay => exact .stay _
    | step call _ ih => exact (moves_respond call _).trans ih
  obtain ⟨log, asked, scheduled, -⟩ := moves
  exact ⟨log, asked, scheduled⟩

end AgentWorld

end NodeStorage.InMemory
