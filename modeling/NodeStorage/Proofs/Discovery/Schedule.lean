/-
**What ends the waits of the agent.**

It comes from elsewhere: the order to stop, the end of the interval, signals, and the closing of
their channel, in any order and at any time. A log has all that arrives and all that the agent says,
in order. Only one thing is assumed of it (`Scheduled`): a wait is ended by something that is ready
then, whichever it is; a channel is known to be closed only when all signals in it have been taken.

* `balance` — signals that arrived are handled or still in the channel.
* `stopped_of_afterwards` — an order to stop that is there has arrived.
* `Scheduled.listens` — signals and the closing of their channel end only waits that listen to it.
-/

import NodeStorage.Proofs.Discovery.Scan

namespace NodeStorage.Discovery

open Dialogue

/-! ### What arrives -/

/-- What comes from elsewhere. -/
inductive Arrival where
  /-- The order to stop. -/
  | stop
  /-- A signal that devices have changed. -/
  | signal
  /-- The channel of the signals is closed. -/
  | close
  deriving DecidableEq, Repr

/-- An entry of the log of an agent. -/
inductive LogEntry where
  | arrives (arrival : Arrival)
  | asks (exchange : AgentExchange)

/-- What the agent says. -/
def said (log : List LogEntry) : List AgentExchange :=
  log.filterMap fun entry =>
    match entry with
    | .arrives _ => none
    | .asks exchange => some exchange

/-- How a wait ended, and whether it listened to signals. -/
def waited? : AgentExchange → Option (Bool × Wake)
  | ⟨.wait _ withSignals, wake⟩ => some (withSignals, wake)
  | ⟨_, _⟩ => none

/-- The exchange is a wait that a signal ended. -/
def takesSignal (exchange : AgentExchange) : Bool :=
  (waited? exchange).any fun waited => waited.2 == .signal

/-- What can end a wait. -/
structure Sources where
  stopped : Bool
  /-- The signals in the channel. -/
  signals : Nat
  isOpen : Bool
  deriving DecidableEq, Repr

namespace Sources

/-- A wait can end in this way. The interval may be over at any time. -/
def Ready (sources : Sources) (withSignals : Bool) : Wake → Prop
  | .stop => sources.stopped = true
  | .interval => True
  | .signal => withSignals = true ∧ 0 < sources.signals
  | .closed => withSignals = true ∧ sources.signals = 0 ∧ sources.isOpen = false

/-- The entry can be the next. -/
def Allows (sources : Sources) : LogEntry → Prop
  | .arrives .signal => sources.isOpen = true
  | .arrives .stop | .arrives .close => True
  | .asks exchange =>
    ∀ withSignals wake, waited? exchange = some (withSignals, wake) →
      sources.Ready withSignals wake

/-- What can end a wait after the entry. -/
def after (sources : Sources) : LogEntry → Sources
  | .arrives .stop => { sources with stopped := true }
  | .arrives .signal => { sources with signals := sources.signals + 1 }
  | .arrives .close => { sources with isOpen := false }
  | .asks exchange =>
    if takesSignal exchange then { sources with signals := sources.signals - 1 } else sources

/-- What can end a wait after the log. -/
def afterwards (sources : Sources) (log : List LogEntry) : Sources :=
  log.foldl after sources

end Sources

/-- **Every entry of the log can be the next where it stands.** -/
def Scheduled : Sources → List LogEntry → Prop
  | _, [] => True
  | sources, entry :: log => sources.Allows entry ∧ Scheduled (sources.after entry) log

theorem scheduled_append_iff {sources : Sources} {early late : List LogEntry} :
    Scheduled sources (early ++ late) ↔
      Scheduled sources early ∧ Scheduled (sources.afterwards early) late := by
  induction early generalizing sources with
  | nil => exact (and_iff_right trivial).symm
  | cons entry early ih =>
    rw [List.cons_append, Scheduled, Scheduled, ih, and_assoc]
    rfl

/-- The signals that arrive. -/
def arrived (log : List LogEntry) : Nat :=
  log.countP fun entry =>
    match entry with
    | .arrives .signal => true
    | _ => false

/-- The signals that end a wait. -/
def handled (log : List LogEntry) : Nat :=
  (said log).countP takesSignal

section Scheduling

variable {sources : Sources} {log : List LogEntry}

/-- A signal that ends a wait was in the channel. -/
theorem Sources.signals_of_takesSignal {exchange : AgentExchange}
    (allowed : sources.Allows (.asks exchange)) (takes : takesSignal exchange = true) :
    0 < sources.signals := by
  obtain ⟨⟨withSignals, wake⟩, waits, same⟩ := (Option.any_eq_true _ _).mp takes
  obtain rfl : wake = .signal := eq_of_beq same
  exact (allowed withSignals _ waits).2

/-- An entry handles a signal, brings one or leaves them alone. -/
theorem balance_step {entry : LogEntry} (allowed : sources.Allows entry) :
    sources.signals + arrived [entry] = handled [entry] + (sources.after entry).signals := by
  cases entry with
  | arrives arrival =>
    cases arrival with
    | stop | close => exact Nat.add_comm _ _
    | signal => exact (Nat.zero_add _).symm
  | asks exchange =>
    have none : arrived [.asks exchange] = 0 := rfl
    have handles : handled [.asks exchange] = if takesSignal exchange then 1 else 0 :=
      List.countP_singleton
    rw [none, handles, Sources.after]
    cases takes : takesSignal exchange with
    | false => exact Nat.add_comm _ _
    | true =>
      have some := sources.signals_of_takesSignal allowed takes
      simp only [if_true]
      omega

/-- **No signal is lost**: each is handled or still in the channel. -/
theorem balance (scheduled : Scheduled sources log) :
    sources.signals + arrived log = handled log + (sources.afterwards log).signals := by
  induction log generalizing sources with
  | nil => exact Nat.add_comm _ _
  | cons entry log ih =>
    obtain ⟨allowed, later⟩ := scheduled
    have first := balance_step allowed
    have rest := ih later
    have arrivals : arrived (entry :: log) = arrived [entry] + arrived log := by
      rw [arrived, ← List.singleton_append, List.countP_append]
      rfl
    have handlings : handled (entry :: log) = handled [entry] + handled log := by
      rw [handled, said, ← List.singleton_append, List.filterMap_append, List.countP_append]
      rfl
    have last : sources.afterwards (entry :: log) = (sources.after entry).afterwards log := rfl
    rw [last]
    omega

/-- Who is told to stop was told so. -/
theorem stopped_of_afterwards (stopped : (sources.afterwards log).stopped = true) :
    sources.stopped = true ∨ .arrives .stop ∈ log := by
  induction log generalizing sources with
  | nil => exact Or.inl stopped
  | cons entry log ih =>
    have last : ((sources.after entry).afterwards log).stopped = true := stopped
    rcases ih last with earlier | member
    · cases entry with
      | arrives arrival =>
        cases arrival with
        | stop => exact Or.inr List.mem_cons_self
        | signal | close => exact Or.inl earlier
      | asks exchange =>
        rw [Sources.after] at earlier
        split at earlier <;> exact Or.inl earlier
    · exact Or.inr (List.mem_cons_of_mem _ member)

/-- What the log allows where an entry stands. -/
theorem Scheduled.at {early late : List LogEntry} {entry : LogEntry}
    (scheduled : Scheduled sources log) (split : log = early ++ entry :: late) :
    Scheduled sources early ∧ (sources.afterwards early).Allows entry := by
  rw [split, scheduled_append_iff] at scheduled
  exact ⟨scheduled.1, scheduled.2.1⟩

/-- What is said stands somewhere in the log. -/
theorem asks_of_said {front back : List AgentExchange} {exchange : AgentExchange}
    (split : said log = front ++ exchange :: back) :
    ∃ early late, log = early ++ .asks exchange :: late ∧ said late = back := by
  obtain ⟨early, rest, rfl, -, later⟩ := List.filterMap_eq_append_iff.mp split
  obtain ⟨arrivals, entry, late, rfl, -, isExchange, ends⟩ := List.filterMap_eq_cons_iff.mp later
  cases entry with
  | arrives arrival => cases isExchange
  | asks other =>
    obtain rfl := Option.some.inj isExchange
    exact ⟨early ++ arrivals, late, (List.append_assoc _ _ _).symm, ends⟩

/-- **A wait ends because of the channel only where the channel is listened to.** -/
theorem Scheduled.listens (scheduled : Scheduled sources log) {exchange : AgentExchange}
    (member : exchange ∈ said log) {withSignals : Bool} {wake : Wake}
    (waits : waited? exchange = some (withSignals, wake))
    (heard : wake = .signal ∨ wake = .closed) : withSignals = true := by
  obtain ⟨front, back, split⟩ := List.append_of_mem member
  obtain ⟨early, late, placed, -⟩ := asks_of_said split
  have ready : (sources.afterwards early).Ready withSignals wake :=
    (scheduled.at placed).2 withSignals wake waits
  rcases heard with rfl | rfl
  · exact ready.1
  · exact ready.1

end Scheduling

end NodeStorage.Discovery
