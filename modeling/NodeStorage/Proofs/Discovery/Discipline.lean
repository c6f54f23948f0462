/-
**The discipline of the agent's loop.**

The log may have anything in any order that can happen (`Scheduled`), and scans may fail.

* `Disciplined` — what holds of the turns of the loop in such a log.
* `start_disciplined` — **every run looks at no device before there is a result object, and is
  disciplined from then on.**
-/

import Mathlib.Data.List.Basic
import NodeStorage.Proofs.Discovery.Loop
import NodeStorage.Proofs.Discovery.Schedule
import NodeStorage.Proofs.InMemory.AgentRuns

namespace NodeStorage.Discovery

open Dialogue InMemory

/-! ### Discipline -/

/-- **What holds of the turns of the agent's loop.** -/
structure Disciplined (rounds : Nat) (sources : Sources) (log : List LogEntry) (turns : List Turn)
    (result : Option (Outcome Unit)) (last : Agent) : Prop where
  /-- A turn has a scan exactly when the interval or a signal ended its wait. -/
  scans : ∀ turn ∈ turns, turn.ScansIfDue
  /-- The devices are listed once at first, and once in each of these turns. -/
  counted : listings (said log) = 1 + turns.countP fun turn => turn.wake.rescans
  /-- The turns go on until the order to stop. -/
  ends : Ends rounds turns result last
  /-- Signals are listened to until the channel was seen to be closed. -/
  listens : ∀ early turn late, turns = early ++ turn :: late →
    (turn.withSignals = true ↔ ∀ other ∈ early, other.wake ≠ .closed)
  /-- That is seen at most once; then waits end with the interval or the order to stop. -/
  closedOnce : ∀ early turn late, turns = early ++ turn :: late → turn.wake = .closed →
    (∀ other ∈ early, other.wake ≠ .closed) ∧
      ∀ other ∈ late, other.withSignals = false ∧ (other.wake = .interval ∨ other.wake = .stop)
  /-- Before it is seen every signal that came has been handled. -/
  buffered : ∀ early milliseconds withSignals late,
    log = early ++ .asks ⟨.wait milliseconds withSignals, .closed⟩ :: late →
      sources.signals + arrived early = handled early
  /-- A run ends well only when it was told to stop, and says nothing more. -/
  stopped : result = some (.ok ()) → last.state = .stopping ∧
    ∃ early milliseconds withSignals late,
      log = early ++ .asks ⟨.wait milliseconds withSignals, .stop⟩ :: late ∧ said late = [] ∧
        (sources.stopped = true ∨ .arrives .stop ∈ early)

section Discipline

variable {rounds : Nat} {sources : Sources} {log : List LogEntry} {agent scanned last : Agent}
  {result : Option (Outcome Unit)} {turns : List Turn} {front : List AgentExchange}

/-- What ends a wait because of the channel listens to it. -/
theorem withSignals_of_heard (scheduled : Scheduled sources log)
    (whole : said log = front ++ turns.flatMap Turn.exchanges) {turn : Turn}
    (member : turn ∈ turns) (heard : turn.wake = .signal ∨ turn.wake = .closed) :
    turn.withSignals = true := by
  have waits : ⟨.wait turn.milliseconds turn.withSignals, turn.wake⟩ ∈ said log := by
    rw [whole]
    exact List.mem_append_right _ (List.mem_flatMap.mpr ⟨turn, member, List.mem_cons_self⟩)
  exact scheduled.listens waits rfl heard

/-- **The channel is seen to be closed at most once**, and not listened to any more. -/
theorem LoopGoes.closedOnce (goes : LoopGoes rounds true scanned turns result last)
    (scheduled : Scheduled sources log)
    (whole : said log = front ++ turns.flatMap Turn.exchanges) {early late : List Turn}
    {turn : Turn} (split : turns = early ++ turn :: late) (closed : turn.wake = .closed) :
    (∀ other ∈ early, other.wake ≠ .closed) ∧
      ∀ other ∈ late, other.withSignals = false ∧
        (other.wake = .interval ∨ other.wake = .stop) := by
  have member {early late : List Turn} {turn : Turn} (split : turns = early ++ turn :: late) :
      turn ∈ turns :=
    split ▸ List.mem_append_right _ List.mem_cons_self
  refine ⟨?_, fun other within => ?_⟩
  · exact ((goes.listens split).mp
      (withSignals_of_heard scheduled whole (member split) (Or.inr closed))).2
  · obtain ⟨between, later, rfl⟩ := List.append_of_mem within
    have placed : turns = (early ++ turn :: between) ++ other :: later := by
      rw [split, List.append_assoc]
      rfl
    have deaf : other.withSignals = false := by
      rw [← Bool.not_eq_true, goes.listens placed]
      rintro ⟨-, none⟩
      exact none turn (List.mem_append_right _ List.mem_cons_self) closed
    have unheard : ¬ (other.wake = .signal ∨ other.wake = .closed) := by
      intro heard
      have listening := withSignals_of_heard scheduled whole (member placed) heard
      rw [deaf] at listening
      cases listening
    refine ⟨deaf, ?_⟩
    cases wake : other.wake <;> simp [wake] at unheard ⊢

/-- **A loop that ends well was told to stop**, and is the last that is heard. -/
theorem Ends.told (ends : Ends rounds turns (some (.ok ())) last)
    (scheduled : Scheduled sources log)
    (whole : said log = front ++ turns.flatMap Turn.exchanges) :
    last.state = .stopping ∧ ∃ early milliseconds withSignals late,
      log = early ++ .asks ⟨.wait milliseconds withSignals, .stop⟩ :: late ∧ said late = [] ∧
        (sources.stopped = true ∨ .arrives .stop ∈ early) := by
  cases ends with
  | @stopped before milliseconds withSignals _ split _ state =>
    have ended : said log = (front ++ before.flatMap Turn.exchanges) ++
        [⟨.wait milliseconds withSignals, .stop⟩] := by
      rw [whole, split, List.flatMap_append, List.append_assoc]
      rfl
    obtain ⟨early, late, placed, silent⟩ := asks_of_said ended
    have ready : (sources.afterwards early).Ready withSignals .stop :=
      (scheduled.at placed).2 _ _ rfl
    exact ⟨state, early, milliseconds, withSignals, late, placed, silent,
      stopped_of_afterwards ready⟩

/-- Where the channel is seen to be closed all signals were taken. -/
theorem Scheduled.buffered (scheduled : Scheduled sources log) {early late : List LogEntry}
    {milliseconds : Nat} {withSignals : Bool}
    (split : log = early ++ .asks ⟨.wait milliseconds withSignals, .closed⟩ :: late) :
    sources.signals + arrived early = handled early := by
  obtain ⟨before, allowed⟩ := scheduled.at split
  have ready : (sources.afterwards early).Ready withSignals .closed := allowed _ _ rfl
  rw [balance before, ready.2.1, Nat.add_zero]

/-- The turns of a loop after a first scan are disciplined. -/
theorem LoopGoes.disciplined (goes : LoopGoes rounds true scanned turns result last)
    (scheduled : Scheduled sources log)
    (whole : said log = front ++ turns.flatMap Turn.exchanges) (listed : listings front = 1) :
    Disciplined rounds sources log turns result last where
  scans := goes.scans
  counted := by rw [whole, listings_append, listed, listings_turns goes.scans]
  ends := goes.ends
  listens early turn late split := (goes.listens split).trans (and_iff_right rfl)
  closedOnce early turn late split closed := goes.closedOnce scheduled whole split closed
  buffered early milliseconds withSignals late split := scheduled.buffered split
  stopped good := Ends.told (good ▸ goes.ends) scheduled whole

/-- **Every run looks at no device before there is a result object**: without one it reports that
and is over, and otherwise it scans and goes on in a disciplined way. -/
theorem start_disciplined (scheduled : Scheduled sources log)
    (conversation : Conversation (agent.start rounds) (said log) (result, last)) :
    ∃ ensuring later, said log = ensuring ++ later ∧ listings ensuring = 0 ∧
      ((∃ cause answer, Conversation agent.settings.identity.ensure ensuring (.error cause) ∧
          result = some (.error cause) ∧ listings later = 0 ∧
          (later = if agent.reporter.reported.contains (refusal cause).key then []
            else [⟨.publish (agent.reporter.addressed (refusal cause)), answer⟩])) ∨
        ∃ first turns, Conversation agent.settings.identity.ensure ensuring (.ok ()) ∧
          IsScan first ∧ later = first ++ turns.flatMap Turn.exchanges ∧
          Disciplined rounds sources log turns result last) := by
  have goes := startGoes_of_conversation conversation
  generalize whole : said log = exchanges at goes
  cases goes with
  | @refused ensuring news cause answer ensures published =>
    have unlisted := listings_of_inner (keepsInside_ensure _ _ _ ensures)
    refine ⟨ensuring, news, rfl, unlisted, Or.inl ⟨cause, answer, ensures, rfl, ?_, published⟩⟩
    rw [published]
    split <;> rfl
  | @started ensuring scan turns outcome scanned _ _ ensures scans goes =>
    have unlisted := listings_of_inner (keepsInside_ensure _ _ _ ensures)
    have first := isScan_of_conversation scans
    have listed : listings (ensuring ++ scan) = 1 := by
      rw [listings_append, unlisted, first.1]
    rw [← List.append_assoc] at whole
    exact ⟨ensuring, _, rfl, unlisted, Or.inr ⟨scan, turns, ensures, first, rfl,
      goes.disciplined scheduled whole listed⟩⟩

/-- An agent that scans every five minutes. -/
def watcher : Agent :=
  .new ⟨"worker-0", "storage", "disks", "d1", 300000⟩ (.new none) ⟨"devices", "", "node", []⟩

/-- A node on which the first listing fails. A signal comes and its channel is closed; much later
the agent is told to stop. -/
def watchedNode : AgentWorld :=
  { AgentWorld.new default with
    course := [(10, .signal), (20, .closeSignals), (700000, .stop)]
    listings := [⟨.error (.deviceListing "busy"), none⟩] }

/-- There the agent scans at first, for the signal and twice at the end of the interval. -/
theorem watcher_disciplined :
    listings (Dialogue.trace AgentWorld.respond (watcher.start 9) watchedNode) = 4 ∧
      ∃ log turns last, said log = Dialogue.trace AgentWorld.respond (watcher.start 9) watchedNode ∧
        Scheduled watchedNode.sources log ∧
        Disciplined 9 watchedNode.sources log turns (some (.ok ())) last := by
  refine ⟨by decide +kernel, ?_⟩
  have ended : (Dialogue.run AgentWorld.respond (watcher.start 9) watchedNode).1.1 =
      some (.ok ()) := by decide +kernel
  have conversation := conversation_trace AgentWorld.respond (watcher.start 9) watchedNode
  have leads := leads_trace AgentWorld.respond (watcher.start 9) watchedNode
  -- The run is only known by its end from here on: to unfold it takes too long.
  generalize Dialogue.run AgentWorld.respond (watcher.start 9) watchedNode = ran
    at ended conversation leads
  obtain ⟨⟨result, last⟩, world⟩ := ran
  obtain rfl : result = some (.ok ()) := ended
  obtain ⟨log, asked, scheduled⟩ := AgentWorld.scheduled_of_leads leads
  rw [← asked] at conversation ⊢
  obtain ⟨_, _, -, -, ⟨_, _, -, impossible, -⟩ | ⟨_, turns, -, -, -, disciplined⟩⟩ :=
    start_disciplined scheduled conversation
  · cases impossible
  · exact ⟨log, turns, last, rfl, scheduled, disciplined⟩

end Discipline

end NodeStorage.Discovery
