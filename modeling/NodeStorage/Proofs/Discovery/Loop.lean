/-
**The turns of the agent's loop.**

Nothing is assumed of what the agent asks: listings may fail, and a wait may end in any way. A run
is then the work on the result object, a scan, and the turns of the loop: each is a wait, with a
scan after it if the interval or a signal ended it.

* `KeepsInside` — most of the agent neither lists devices nor waits; `scan_shape` says that a scan
  lists them once, at its start.
* `LoopGoes`, `loopGoes_of_conversation` — the ways in which the loop can go, turn by turn.
* `LoopGoes.scans`, `LoopGoes.listens`, `LoopGoes.ends` — what its turns have in common: they scan
  when they must, they listen to signals until the channel was seen to be closed, and only the order
  to stop ends them.
* `StartGoes`, `startGoes_of_conversation` — the ways of a run.
-/

import NodeStorage.Proofs.Discovery.Scan

namespace NodeStorage.Discovery

open Dialogue

/-! ### Inside a scan -/

/-- The call neither lists devices nor waits. -/
def Call.isInner : Call → Bool
  | .listDevices | .wait _ _ => false
  | .examine | .getResult _ _ | .createResult _ | .updateResultStatus _ | .publish _ | .clock =>
    true

/-- Whatever it is answered, the dialogue neither lists devices nor waits. -/
def KeepsInside {Result : Type} (dialogue : AgentDialogue Result) : Prop :=
  ∀ exchanges result, Conversation dialogue exchanges result →
    ∀ exchange ∈ exchanges, exchange.question.isInner = true

namespace KeepsInside

variable {Result Other : Type}

theorem done (result : Result) : KeepsInside (.done result : AgentDialogue Result) := by
  intro exchanges given conversation
  obtain ⟨rfl, -⟩ := conversation_done_iff.mp conversation
  exact List.forall_mem_nil _

theorem ask {call : Call} {next : call.Answer → AgentDialogue Result}
    (inner : call.isInner = true) (later : ∀ answer, KeepsInside (next answer)) :
    KeepsInside (.ask call next) := by
  intro exchanges result conversation
  obtain ⟨answer, rest, rfl, answered⟩ := conversation_ask_iff.mp conversation
  exact List.forall_mem_cons.mpr ⟨inner, later answer rest result answered⟩

theorem bind {first : AgentDialogue Result} {second : Result → AgentDialogue Other}
    (early : KeepsInside first) (late : ∀ result, KeepsInside (second result)) :
    KeepsInside (first.bind second) := by
  intro exchanges result conversation
  obtain ⟨front, middle, back, rfl, first, last⟩ := conversation_bind_iff.mp conversation
  exact List.forall_mem_append.mpr ⟨early front middle first, late middle back result last⟩

end KeepsInside

theorem keepsInside_report (reporter : Reporter) (event : DiskEvent) :
    KeepsInside (reporter.report event) := by
  rw [Reporter.report]
  split
  · exact .done _
  · exact .ask rfl fun _ => .done _

theorem keepsInside_warn (agent : Agent) (reason : EventReason) (what : String) (cause : Error) :
    KeepsInside (agent.warn reason what cause) :=
  .bind (keepsInside_report _ _) fun _ => .done _

theorem keepsInside_ensure (identity : ResultIdentity) : KeepsInside identity.ensure := by
  refine .ask rfl fun found : Outcome (Option ResultObject) => ?_
  match found with
  | .error cause => exact .done _
  | .ok (some object) => exact .done _
  | .ok none => exact .ask rfl fun _ => .done _

theorem keepsInside_updateStatus (identity : ResultIdentity) (devices : List DiscoveredDevice) :
    KeepsInside (identity.updateStatus devices) := by
  refine .ask rfl fun found : Outcome (Option ResultObject) => ?_
  match found with
  | .error cause => exact .done _
  | .ok none => exact .done _
  | .ok (some object) => exact .ask rfl fun _ => .ask rfl fun _ => .done _

theorem keepsInside_persist (agent : Agent) (found : List DiscoveredDevice) :
    KeepsInside (agent.persist found) := by
  refine .bind (keepsInside_updateStatus _ _) fun written => ?_
  cases written with
  | error cause => exact .bind (keepsInside_warn _ _ _ _) fun _ => .done _
  | ok value => exact .bind (keepsInside_report _ _) fun _ => .done _

/-- **A scan lists the devices once, at its start, and does not wait**; after it the agent is
idle. -/
theorem scan_shape {agent after : Agent} {exchanges : List AgentExchange} {outcome : Outcome Unit}
    (conversation : Conversation agent.discoverDevices exchanges (outcome, after)) :
    after.state = .idle ∧ ∃ answer rest, exchanges = ⟨.listDevices, answer⟩ :: rest ∧
      ∀ exchange ∈ rest, exchange.question.isInner = true := by
  obtain ⟨⟨_, scanned⟩, scans, same⟩ := conversation_bind_done_iff.mp conversation
  cases same
  rw [scan_eq] at scans
  obtain ⟨answer, rest, rfl, listed⟩ := conversation_ask_iff.mp scans
  refine ⟨rfl, answer, rest, rfl, ?_⟩
  cases answer with
  | error cause =>
    exact KeepsInside.bind (keepsInside_warn _ _ _ _) (fun _ => .done _) _ _ listed
  | ok devices =>
    obtain ⟨probe, late, rfl, probed⟩ := conversation_ask_iff.mp listed
    refine List.forall_mem_cons.mpr ⟨rfl, ?_⟩
    split at probed
    · exact KeepsInside.done _ _ _ probed
    · exact keepsInside_persist _ _ _ _ probed

/-! ### Turns -/

/-- The wait ends with a scan. -/
def Wake.rescans : Wake → Bool
  | .interval | .signal => true
  | .stop | .closed => false

theorem Wake.ne_of_rescans {wake : Wake} (rescans : wake.rescans = true) :
    wake ≠ .stop ∧ wake ≠ .closed := by
  constructor <;>
  · rintro rfl
    cases rescans

/-- A turn of the loop: a wait, how it ended, and what was said until the next wait. -/
structure Turn where
  milliseconds : Nat
  withSignals : Bool
  wake : Wake
  scan : List AgentExchange

/-- All that is said in a turn. -/
def Turn.exchanges (turn : Turn) : List AgentExchange :=
  ⟨.wait turn.milliseconds turn.withSignals, turn.wake⟩ :: turn.scan

/-- How often the devices were listed. -/
def listings (exchanges : List AgentExchange) : Nat :=
  exchanges.countP fun exchange =>
    match exchange.question with
    | .listDevices => true
    | _ => false

/-- **The exchanges are one scan**, from its start to its end. -/
def IsScan (exchanges : List AgentExchange) : Prop :=
  listings exchanges = 1 ∧ ∃ (before after : Agent) (outcome : Outcome Unit),
    Conversation before.discoverDevices exchanges (outcome, after) ∧ after.state = .idle

theorem listings_append (early late : List AgentExchange) :
    listings (early ++ late) = listings early + listings late :=
  List.countP_append

theorem listings_of_inner {exchanges : List AgentExchange}
    (inner : ∀ exchange ∈ exchanges, exchange.question.isInner = true) :
    listings exchanges = 0 := by
  refine List.countP_eq_zero.mpr fun exchange member => ?_
  have inside := inner exchange member
  obtain ⟨call, answer⟩ := exchange
  cases call with
  | listDevices | wait => cases inside
  | examine | getResult | createResult | updateResultStatus | publish | clock =>
    exact Bool.noConfusion

theorem isScan_of_conversation {agent after : Agent} {exchanges : List AgentExchange}
    {outcome : Outcome Unit}
    (conversation : Conversation agent.discoverDevices exchanges (outcome, after)) :
    IsScan exchanges := by
  obtain ⟨idle, answer, rest, rfl, inner⟩ := scan_shape conversation
  refine ⟨?_, agent, after, outcome, conversation, idle⟩
  exact (List.countP_cons_of_pos rfl).trans (congrArg (· + 1) (listings_of_inner inner))

/-- **The ways in which the loop can go.** -/
inductive LoopGoes :
    Nat → Bool → Agent → List Turn → Option (Outcome Unit) → Agent → Prop
  | exhausted {withSignals : Bool} {agent : Agent} : LoopGoes 0 withSignals agent [] none agent
  | stopped {rounds : Nat} {withSignals : Bool} {agent : Agent} :
      LoopGoes (rounds + 1) withSignals agent [⟨agent.settings.interval, withSignals, .stop, []⟩]
        (some (.ok ())) { agent with state := .stopping }
  | closed {rounds : Nat} {withSignals : Bool} {agent last : Agent} {turns : List Turn}
      {result : Option (Outcome Unit)} :
      LoopGoes rounds false agent turns result last →
      LoopGoes (rounds + 1) withSignals agent
        (⟨agent.settings.interval, withSignals, .closed, []⟩ :: turns) result last
  | rescanned {rounds : Nat} {withSignals : Bool} {agent scanned last : Agent} {wake : Wake}
      {scan : List AgentExchange} {outcome : Outcome Unit} {turns : List Turn}
      {result : Option (Outcome Unit)} :
      wake.rescans = true →
      Conversation agent.discoverDevices scan (outcome, scanned) →
      LoopGoes rounds withSignals scanned turns result last →
      LoopGoes (rounds + 1) withSignals agent
        (⟨agent.settings.interval, withSignals, wake, scan⟩ :: turns) result last

/-- **The loop always goes in one of these ways.** -/
theorem loopGoes_of_conversation {rounds : Nat} {withSignals : Bool} {agent last : Agent}
    {exchanges : List AgentExchange} {result : Option (Outcome Unit)}
    (conversation : Conversation (agent.loop rounds withSignals) exchanges (result, last)) :
    ∃ turns, exchanges = turns.flatMap Turn.exchanges ∧
      LoopGoes rounds withSignals agent turns result last := by
  induction rounds generalizing withSignals agent exchanges with
  | zero =>
    obtain ⟨rfl, same⟩ := conversation_done_iff.mp conversation
    cases same
    exact ⟨[], rfl, .exhausted⟩
  | succ rounds ih =>
    obtain ⟨wake, rest, rfl, later⟩ := conversation_ask_iff.mp conversation
    have rescanned {wake : Wake} (rescans : wake.rescans = true)
        (later : Conversation (agent.discoverDevices.bind fun scanned =>
          scanned.2.loop rounds withSignals) rest (result, last)) :
        ∃ turns, ⟨.wait agent.settings.interval withSignals, wake⟩ :: rest =
            turns.flatMap Turn.exchanges ∧
          LoopGoes (rounds + 1) withSignals agent turns result last := by
      obtain ⟨scan, ⟨outcome, scanned⟩, rest, rfl, scans, later⟩ := conversation_bind_iff.mp later
      obtain ⟨turns, rfl, goes⟩ := ih later
      exact ⟨⟨_, _, wake, scan⟩ :: turns, rfl, .rescanned rescans scans goes⟩
    match wake, later with
    | .stop, later =>
      obtain ⟨rfl, same⟩ := conversation_done_iff.mp later
      cases same
      exact ⟨[⟨_, _, .stop, []⟩], rfl, .stopped⟩
    | .closed, later =>
      obtain ⟨turns, rfl, goes⟩ := ih later
      exact ⟨⟨_, _, .closed, []⟩ :: turns, rfl, .closed goes⟩
    | .interval, later => exact rescanned rfl later
    | .signal, later => exact rescanned rfl later

section Turns

variable {rounds : Nat} {withSignals : Bool} {agent last : Agent} {turns : List Turn}
  {result : Option (Outcome Unit)}

/-- The turn scans when it must, once, and says nothing else. -/
def Turn.ScansIfDue (turn : Turn) : Prop :=
  if turn.wake.rescans then IsScan turn.scan else turn.scan = []

/-- **Every turn scans when it must.** -/
theorem LoopGoes.scans (goes : LoopGoes rounds withSignals agent turns result last) :
    ∀ turn ∈ turns, turn.ScansIfDue := by
  induction goes with
  | exhausted => exact List.forall_mem_nil _
  | stopped => exact List.forall_mem_singleton.mpr rfl
  | closed _ ih => exact List.forall_mem_cons.mpr ⟨rfl, ih⟩
  | rescanned rescans scans _ ih =>
    refine List.forall_mem_cons.mpr ⟨?_, ih⟩
    rw [Turn.ScansIfDue, if_pos rescans]
    exact isScan_of_conversation scans

/-- The devices are listed once in each turn that scans. -/
theorem listings_turns (scans : ∀ turn ∈ turns, turn.ScansIfDue) :
    listings (turns.flatMap Turn.exchanges) = turns.countP fun turn => turn.wake.rescans := by
  induction turns with
  | nil => rfl
  | cons turn turns ih =>
    obtain ⟨first, later⟩ := List.forall_mem_cons.mp scans
    have waits : listings turn.exchanges = listings turn.scan := rfl
    rw [List.flatMap_cons, listings_append, ih later, waits, List.countP_cons, Nat.add_comm]
    rw [Turn.ScansIfDue] at first
    cases due : turn.wake.rescans with
    | true =>
      rw [if_pos due] at first
      rw [first.1, if_pos rfl]
    | false =>
      rw [if_neg (by rw [due]; decide)] at first
      rw [first]
      rfl

/-- **The loop listens to signals until it has seen that the channel is closed.** -/
theorem LoopGoes.listens (goes : LoopGoes rounds withSignals agent turns result last)
    {early late : List Turn} {turn : Turn} (split : turns = early ++ turn :: late) :
    turn.withSignals = true ↔
      withSignals = true ∧ ∀ other ∈ early, other.wake ≠ .closed := by
  induction goes generalizing early with
  | exhausted => cases early <;> cases split
  | stopped =>
    cases early with
    | nil =>
      cases split
      simp
    | cons first early => cases early <;> cases split
  | closed _ ih =>
    cases early with
    | nil =>
      cases split
      simp
    | cons first early =>
      obtain ⟨rfl, later⟩ := List.cons.inj split
      rw [ih later]
      simp
  | rescanned rescans _ _ ih =>
    cases early with
    | nil =>
      cases split
      simp
    | cons first early =>
      obtain ⟨rfl, later⟩ := List.cons.inj split
      rw [ih later, List.forall_mem_cons]
      exact and_congr_right fun _ => (and_iff_right (Wake.ne_of_rescans rescans).2).symm

/-- The turns go on as long as they may, or up to the order to stop, which ends the loop well. -/
inductive Ends (rounds : Nat) (turns : List Turn) : Option (Outcome Unit) → Agent → Prop
  | ongoing {last : Agent} : turns.length = rounds →
      (∀ turn ∈ turns, turn.wake ≠ .stop) → Ends rounds turns none last
  | stopped {early : List Turn} {milliseconds : Nat} {withSignals : Bool} {last : Agent} :
      turns = early ++ [⟨milliseconds, withSignals, .stop, []⟩] →
      (∀ turn ∈ early, turn.wake ≠ .stop) → last.state = .stopping →
      Ends rounds turns (some (.ok ())) last

theorem Ends.cons {turn : Turn} (running : turn.wake ≠ .stop)
    (ends : Ends rounds turns result last) :
    Ends (rounds + 1) (turn :: turns) result last := by
  cases ends with
  | ongoing length others =>
    exact .ongoing (congrArg (· + 1) length) (List.forall_mem_cons.mpr ⟨running, others⟩)
  | @stopped early milliseconds withSignals _ split others state =>
    have later : turn :: turns = (turn :: early) ++ [⟨milliseconds, withSignals, .stop, []⟩] :=
      congrArg (turn :: ·) split
    exact .stopped later (List.forall_mem_cons.mpr ⟨running, others⟩) state

/-- **Only the order to stop ends the loop**, whatever comes of the scans. -/
theorem LoopGoes.ends (goes : LoopGoes rounds withSignals agent turns result last) :
    Ends rounds turns result last := by
  induction goes with
  | exhausted => exact .ongoing rfl (List.forall_mem_nil _)
  | stopped => exact .stopped (List.nil_append _).symm (List.forall_mem_nil _) rfl
  | closed _ ih => exact ih.cons Wake.noConfusion
  | rescanned rescans _ _ ih => exact ih.cons (Wake.ne_of_rescans rescans).1

end Turns

/-! ### Runs -/

/-- What the agent says when there is no result object and none can be made. -/
def refusal (cause : Error) : DiskEvent :=
  .warning .cannotCreateResult
    (String.join ["failed to start device discovery", ". Error: ", cause.message])

/-- **The ways in which a run can go.** -/
inductive StartGoes (rounds : Nat) (agent : Agent) :
    List AgentExchange → Option (Outcome Unit) → Agent → Prop
  /-- There is no result object: that is reported, unless it was before, and is the end. -/
  | refused {ensuring news : List AgentExchange} {cause : Error} {answer : Outcome Unit} :
      Conversation agent.settings.identity.ensure ensuring (.error cause) →
      (news = if agent.reporter.reported.contains (refusal cause).key then []
        else [⟨.publish (agent.reporter.addressed (refusal cause)), answer⟩]) →
      StartGoes rounds agent (ensuring ++ news) (some (.error cause))
        { agent with reporter := (agent.reporter.consider (refusal cause)).2 }
  /-- There is one: the loop follows a first scan. -/
  | started {ensuring scan : List AgentExchange} {turns : List Turn} {outcome : Outcome Unit}
      {scanned last : Agent} {result : Option (Outcome Unit)} :
      Conversation agent.settings.identity.ensure ensuring (.ok ()) →
      Conversation agent.discoverDevices scan (outcome, scanned) →
      LoopGoes rounds true scanned turns result last →
      StartGoes rounds agent (ensuring ++ (scan ++ turns.flatMap Turn.exchanges)) result last

/-- A report is published if it is news. -/
theorem report_spec {reporter after : Reporter} {event : DiskEvent} {news : Bool}
    {exchanges : List AgentExchange}
    (conversation : Conversation (reporter.report event) exchanges (news, after)) :
    after = (reporter.consider event).2 ∧ ∃ answer, exchanges =
      if reporter.reported.contains event.key then []
      else [⟨.publish (reporter.addressed event), answer⟩] := by
  cases known : reporter.reported.contains event.key with
  | true =>
    rw [Reporter.report, Reporter.consider, known] at conversation
    obtain ⟨rfl, same⟩ := conversation_done_iff.mp conversation
    cases same
    rw [Reporter.consider, known]
    exact ⟨rfl, .ok (), rfl⟩
  | false =>
    rw [Reporter.report, Reporter.consider, known] at conversation
    obtain ⟨answer, rest, rfl, published⟩ := conversation_ask_iff.mp conversation
    obtain ⟨rfl, same⟩ := conversation_done_iff.mp published
    cases same
    rw [Reporter.consider, known]
    exact ⟨rfl, answer, rfl⟩

/-- **Every run goes in one of these ways.** -/
theorem startGoes_of_conversation {rounds : Nat} {agent last : Agent}
    {exchanges : List AgentExchange} {result : Option (Outcome Unit)}
    (conversation : Conversation (agent.start rounds) exchanges (result, last)) :
    StartGoes rounds agent exchanges result last := by
  obtain ⟨ensuring, ensured, rest, rfl, ensures, later⟩ := conversation_bind_iff.mp conversation
  cases ensured with
  | error cause =>
    obtain ⟨warned, warns, same⟩ := conversation_bind_done_iff.mp later
    cases same
    obtain ⟨⟨news, reporter⟩, reports, rfl⟩ := conversation_bind_done_iff.mp warns
    obtain ⟨rfl, answer, published⟩ := report_spec reports
    exact .refused ensures published
  | ok value =>
    obtain ⟨scan, ⟨outcome, scanned⟩, rest, rfl, scans, looped⟩ := conversation_bind_iff.mp later
    obtain ⟨turns, rfl, goes⟩ := loopGoes_of_conversation looped
    exact .started ensures scans goes

end NodeStorage.Discovery
