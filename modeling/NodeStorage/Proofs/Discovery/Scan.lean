/-
**The ways in which a scan can go.**

Nothing is assumed of the node and of the cluster here: the listing may fail, the probe may answer
anything, and so may the cluster. What a scan then asks, what it ends with and what the agent
remembers is one of four stories (`scanGoes_of_conversation`):

* the listing fails, and no result object is asked for;
* what is found is known already, and no result object is asked for either;
* what is found is new, and the agent cannot write it: it still knows what it knew;
* what is found is new and written, and now known.

In each of them but the first the gauge shows how much was found. The creation of the result object
and the writing of a list have stories of their own (`EnsureGoes`, `WriteGoes`).
-/

import NodeStorage.Discovery.Agent
import NodeStorage.Proofs.Dialogue.Conversation

namespace NodeStorage.Discovery

open Dialogue

/-- An exchange of an agent. -/
abbrev AgentExchange := Exchange Call Call.Answer

/-- The call reads or writes result objects. -/
def Call.isStoreCall : Call → Bool
  | .getResult _ _ | .createResult _ | .updateResultStatus _ => true
  | .listDevices | .examine | .publish _ | .clock | .wait _ _ => false

/-- None of the calls reads or writes result objects. -/
def Quiet (exchanges : List AgentExchange) : Prop :=
  ∀ exchange ∈ exchanges, exchange.question.isStoreCall = false

theorem quiet_nil : Quiet [] :=
  List.forall_mem_nil _

theorem quiet_cons_iff {exchange : AgentExchange} {exchanges : List AgentExchange} :
    Quiet (exchange :: exchanges) ↔
      exchange.question.isStoreCall = false ∧ Quiet exchanges :=
  List.forall_mem_cons

/-- The objects whose status was written, in order. -/
def updates (exchanges : List AgentExchange) : List ResultObject :=
  exchanges.filterMap fun exchange =>
    match exchange with
    | ⟨.updateResultStatus object, .ok ()⟩ => some object
    | _ => none

theorem updates_append (early late : List AgentExchange) :
    updates (early ++ late) = updates early ++ updates late :=
  List.filterMap_append

theorem updates_of_quiet {exchanges : List AgentExchange} (quiet : Quiet exchanges) :
    updates exchanges = [] := by
  refine List.filterMap_eq_nil_iff.mpr fun exchange member => ?_
  have other := quiet exchange member
  obtain ⟨call, answer⟩ := exchange
  cases call with
  | updateResultStatus => cases other
  | listDevices | examine | getResult | createResult | publish | clock | wait => rfl

/-! ### Reports -/

theorem quiet_report {reporter after : Reporter} {event : DiskEvent} {news : Bool}
    {exchanges : List AgentExchange}
    (conversation : Conversation (reporter.report event) exchanges (news, after)) :
    Quiet exchanges := by
  rw [Reporter.report] at conversation
  split at conversation
  · obtain ⟨rfl, -⟩ := conversation_done_iff.mp conversation
    exact quiet_nil
  · obtain ⟨_, _, rfl, published⟩ := conversation_ask_iff.mp conversation
    obtain ⟨rfl, -⟩ := conversation_done_iff.mp published
    exact quiet_cons_iff.mpr ⟨rfl, quiet_nil⟩

/-- A warning changes what has been reported, and nothing else. -/
theorem warn_spec {agent after : Agent} {reason : EventReason} {what : String} {cause : Error}
    {exchanges : List AgentExchange}
    (conversation : Conversation (agent.warn reason what cause) exchanges after) :
    Quiet exchanges ∧ ∃ reporter, after = { agent with reporter := reporter } := by
  obtain ⟨⟨news, reporter⟩, reported, rfl⟩ := conversation_bind_done_iff.mp conversation
  exact ⟨quiet_report reported, reporter, rfl⟩

/-! ### Creating the result -/

/-- The ways in which the creation of a result can go. -/
inductive EnsureGoes (identity : ResultIdentity) : List AgentExchange → Outcome Unit → Prop
  | unread {cause : Error} :
      EnsureGoes identity [⟨.getResult identity.namespaceName identity.resultName, .error cause⟩]
        (.error cause)
  | present {object : ResultObject} :
      EnsureGoes identity
        [⟨.getResult identity.namespaceName identity.resultName, .ok (some object)⟩] (.ok ())
  | answered {outcome : Outcome Unit} :
      EnsureGoes identity
        [⟨.getResult identity.namespaceName identity.resultName, .ok none⟩,
          ⟨.createResult identity.newResult, outcome⟩] outcome

theorem ensureGoes_of_conversation {identity : ResultIdentity}
    {exchanges : List AgentExchange} {outcome : Outcome Unit}
    (conversation : Conversation identity.ensure exchanges outcome) :
    EnsureGoes identity exchanges outcome := by
  obtain ⟨answer, rest, rfl, got⟩ := conversation_ask_iff.mp conversation
  match answer, got with
  | .error cause, got =>
    obtain ⟨rfl, rfl⟩ := conversation_done_iff.mp got
    exact .unread
  | .ok (some object), got =>
    obtain ⟨rfl, rfl⟩ := conversation_done_iff.mp got
    exact .present
  | .ok none, got =>
    obtain ⟨answered, rest, rfl, created⟩ := conversation_ask_iff.mp got
    obtain ⟨rfl, rfl⟩ := conversation_done_iff.mp created
    exact .answered

/-! ### Writing -/

/-- The object with a list of devices in its status. -/
def ResultObject.withDevices (object : ResultObject) (devices : List DiscoveredDevice)
    (now : Instant) : ResultObject :=
  { object with status := some ⟨devices, some (Instant.writeSeconds now)⟩ }

/-- The ways in which the writing of a list of devices can go. -/
inductive WriteGoes (identity : ResultIdentity) (devices : List DiscoveredDevice) :
    List AgentExchange → Outcome Unit → Prop
  | unread {cause : Error} :
      WriteGoes identity devices
        [⟨.getResult identity.namespaceName identity.resultName, .error cause⟩] (.error cause)
  | missing :
      WriteGoes identity devices
        [⟨.getResult identity.namespaceName identity.resultName, .ok none⟩]
        (.error identity.missingResult)
  | answered {object : ResultObject} {now : Instant} {outcome : Outcome Unit} :
      WriteGoes identity devices
        [⟨.getResult identity.namespaceName identity.resultName, .ok (some object)⟩,
          ⟨.clock, now⟩, ⟨.updateResultStatus (object.withDevices devices now), outcome⟩] outcome

theorem writeGoes_of_conversation {identity : ResultIdentity} {devices : List DiscoveredDevice}
    {exchanges : List AgentExchange} {outcome : Outcome Unit}
    (conversation : Conversation (identity.updateStatus devices) exchanges outcome) :
    WriteGoes identity devices exchanges outcome := by
  obtain ⟨answer, rest, rfl, got⟩ := conversation_ask_iff.mp conversation
  match answer, got with
  | .error cause, got =>
    obtain ⟨rfl, rfl⟩ := conversation_done_iff.mp got
    exact .unread
  | .ok none, got =>
    obtain ⟨rfl, rfl⟩ := conversation_done_iff.mp got
    exact .missing
  | .ok (some object), got =>
    obtain ⟨now, rest, rfl, timed⟩ := conversation_ask_iff.mp got
    obtain ⟨answered, rest, rfl, updated⟩ := conversation_ask_iff.mp timed
    obtain ⟨rfl, rfl⟩ := conversation_done_iff.mp updated
    exact .answered

/-- Writing begins with a question for the result object. -/
theorem WriteGoes.not_quiet {identity : ResultIdentity} {devices : List DiscoveredDevice}
    {exchanges later : List AgentExchange} {outcome : Outcome Unit}
    (goes : WriteGoes identity devices exchanges outcome) : ¬ Quiet (exchanges ++ later) := by
  intro quiet
  cases goes <;> cases (quiet_cons_iff.mp quiet).1

theorem updates_of_unwritten {identity : ResultIdentity} {devices : List DiscoveredDevice}
    {writing : List AgentExchange} {cause : Error}
    (goes : WriteGoes identity devices writing (.error cause)) : updates writing = [] := by
  cases goes <;> rfl

/-! ### Scanning -/

/-- The agent with its gauge set to the number of the devices that were found. -/
def Agent.counting (agent : Agent) (found : List DiscoveredDevice) : Agent :=
  { agent with gauge := agent.gauge.set agent.settings.nodeName found.length }

/-- **The ways in which a scan can go.** -/
inductive ScanGoes (agent : Agent) : List AgentExchange → Outcome Unit → Agent → Prop
  | unlisted {cause : Error} {news : List AgentExchange} {reporter : Reporter} :
      Quiet news →
      ScanGoes agent (⟨.listDevices, .error cause⟩ :: news) (.error cause)
        { agent with reporter := reporter, state := .idle }
  | unchanged {listed : List BlockDevice} {probe : DeviceProbe} :
      agent.known = some (discover probe listed) →
      ScanGoes agent [⟨.listDevices, .ok listed⟩, ⟨.examine, probe⟩] (.ok ())
        { agent.counting (discover probe listed) with state := .idle }
  | unwritten {listed : List BlockDevice} {probe : DeviceProbe} {cause : Error}
      {writing news : List AgentExchange} {reporter : Reporter} :
      agent.known ≠ some (discover probe listed) →
      WriteGoes agent.settings.identity (discover probe listed) writing (.error cause) →
      Quiet news →
      ScanGoes agent (⟨.listDevices, .ok listed⟩ :: ⟨.examine, probe⟩ :: (writing ++ news))
        (.error cause)
        { agent.counting (discover probe listed) with reporter := reporter, state := .idle }
  | written {listed : List BlockDevice} {probe : DeviceProbe}
      {writing news : List AgentExchange} {reporter : Reporter} :
      agent.known ≠ some (discover probe listed) →
      WriteGoes agent.settings.identity (discover probe listed) writing (.ok ()) →
      Quiet news →
      ScanGoes agent (⟨.listDevices, .ok listed⟩ :: ⟨.examine, probe⟩ :: (writing ++ news))
        (.ok ())
        { agent.counting (discover probe listed) with
          known := some (discover probe listed), reporter := reporter, state := .idle }

/-- Writing a list that is not known, and saying so. -/
theorem persist_spec {agent after : Agent} {found : List DiscoveredDevice}
    {exchanges : List AgentExchange} {outcome : Outcome Unit}
    (conversation : Conversation (agent.persist found) exchanges (outcome, after)) :
    ∃ writing news reporter, exchanges = writing ++ news ∧ Quiet news ∧
      WriteGoes agent.settings.identity found writing outcome ∧
      after = { agent with
        reporter := reporter, known := if outcome.isOk then some found else agent.known } := by
  obtain ⟨writing, written, news, rfl, writes, conversation⟩ :=
    conversation_bind_iff.mp conversation
  have goes := writeGoes_of_conversation writes
  cases written with
  | error cause =>
    obtain ⟨warned, warns, same⟩ := conversation_bind_done_iff.mp conversation
    obtain ⟨quiet, reporter, rfl⟩ := warn_spec warns
    cases same
    exact ⟨writing, news, reporter, rfl, quiet, goes, rfl⟩
  | ok value =>
    obtain ⟨⟨_, reporter⟩, reports, same⟩ := conversation_bind_done_iff.mp conversation
    cases same
    exact ⟨writing, news, reporter, rfl, quiet_report reports, goes, rfl⟩

/-- A scan, call by call. -/
theorem scan_eq (agent : Agent) :
    agent.scan = .ask .listDevices fun listing : Outcome (List BlockDevice) =>
      match listing with
      | .error cause =>
        (agent.warn .cannotListDevices "failed to discover devices" cause).bind fun after =>
          .done (.error cause, after)
      | .ok listed => .ask .examine fun probe : DeviceProbe =>
        if agent.known = some (discover probe listed) then
          .done (.ok (), agent.counting (discover probe listed))
        else (agent.counting (discover probe listed)).persist (discover probe listed) := by
  rw [Agent.scan]
  show Dialogue.ask _ _ = _
  refine congrArg (Dialogue.ask Call.listDevices) (funext fun listing => ?_)
  cases listing <;> rfl

/-- **Every scan goes in one of these ways.** -/
theorem scanGoes_of_conversation {agent after : Agent} {exchanges : List AgentExchange}
    {outcome : Outcome Unit}
    (conversation : Conversation agent.discoverDevices exchanges (outcome, after)) :
    ScanGoes agent exchanges outcome after := by
  obtain ⟨⟨outcome, scanned⟩, scans, same⟩ := conversation_bind_done_iff.mp conversation
  cases same
  rw [scan_eq] at scans
  obtain ⟨listing, rest, rfl, listed⟩ := conversation_ask_iff.mp scans
  cases listing with
  | error cause =>
    obtain ⟨warned, warns, same⟩ := conversation_bind_done_iff.mp listed
    obtain ⟨quiet, reporter, rfl⟩ := warn_spec warns
    cases same
    exact .unlisted quiet
  | ok devices =>
    obtain ⟨probe, rest, rfl, probed⟩ := conversation_ask_iff.mp listed
    split at probed
    · rename_i known
      obtain ⟨rfl, same⟩ := conversation_done_iff.mp probed
      cases same
      exact .unchanged known
    · rename_i unknown
      obtain ⟨writing, news, reporter, rfl, quiet, goes, rfl⟩ := persist_spec probed
      cases outcome with
      | error cause => exact .unwritten unknown goes quiet
      | ok value => exact .written unknown goes quiet

end NodeStorage.Discovery
