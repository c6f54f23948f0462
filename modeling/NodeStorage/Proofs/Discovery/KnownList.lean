/-
**The agent knows what it has written.**

An agent that is told of a change by comparing lists must not believe that a list is in the cluster
when it is not. Here processes of the agent come and go over one store of results; each scan meets a
world of its own, in which the listing, the probe and the calls behave as they like, except that a
call that fails has no effect and nobody else writes the node's result.

* `Scanned`, `scanned_run` — what one scan does to the agent and to the store.
* `Kept` — what holds at all times: the agent knows the list of its last update, that list stands in
  the store, and the gauge shows what was found last (`kept_after`).
* `scan_keeps_up` — **what every scan does, after any past.**
-/

import Mathlib.Data.List.Induction
import NodeStorage.Proofs.InMemory.Results
import NodeStorage.Proofs.Metrics.Gauge

namespace NodeStorage.Discovery

open Dialogue InMemory

/-! ### One scan -/

/-- The list of devices in an object's status, if it has one. -/
def ResultObject.devices? (object : ResultObject) : Option (List DiscoveredDevice) :=
  object.status.map ResultStatus.devices

/-- What a scan finds in a world, unless the listing fails. -/
def found? (world : AgentWorld) : Option (List DiscoveredDevice) :=
  world.list.1.toOption.map (discover world.probe)

/-- Where the result of a node is kept. -/
def AgentSettings.resultKey (settings : AgentSettings) : ObjectKey :=
  (settings.namespaceName, settings.identity.resultName)

/-- **What a scan does**: the calls, the outcome, the agent afterwards and the store afterwards. -/
inductive Scanned (agent : Agent) (world : AgentWorld) :
    List AgentExchange → Outcome Unit → Agent → ResultStore → Prop
  | unlisted {asked : List AgentExchange} {cause : Error} {reporter : Reporter} :
      found? world = none → Quiet asked →
      Scanned agent world asked (.error cause)
        { agent with reporter := reporter, state := .idle } world.store
  | unchanged {asked : List AgentExchange} {found : List DiscoveredDevice} :
      found? world = some found → agent.known = some found → Quiet asked →
      Scanned agent world asked (.ok ()) { agent.counting found with state := .idle } world.store
  | unwritten {asked : List AgentExchange} {found : List DiscoveredDevice} {cause : Error}
      {reporter : Reporter} :
      found? world = some found → agent.known ≠ some found → ¬ Quiet asked → updates asked = [] →
      Scanned agent world asked (.error cause)
        { agent.counting found with reporter := reporter, state := .idle } world.store
  | written {asked : List AgentExchange} {found : List DiscoveredDevice} {reporter : Reporter}
      {object : ResultObject} {now : Instant} :
      found? world = some found → agent.known ≠ some found → ¬ Quiet asked →
      updates asked = [object.withDevices found now] →
      world.store.get? agent.settings.resultKey = some object →
      Scanned agent world asked (.ok ())
        { agent.counting found with known := some found, reporter := reporter, state := .idle }
        (world.store.put (object.withDevices found now))

/-- What was listed and probed is what there is to find. -/
theorem found?_of_leads {world last : AgentWorld} {listed : List BlockDevice}
    {probe : DeviceProbe} {later : List AgentExchange}
    (leads : Leads AgentWorld.respond world
      (⟨.listDevices, .ok listed⟩ :: ⟨.examine, probe⟩ :: later) last) :
    found? world = some (discover probe listed) := by
  obtain ⟨listing, leads⟩ := leads_cons_iff.mp leads
  obtain ⟨probing, -⟩ := leads_cons_iff.mp leads
  have isListed : world.list.1 = .ok listed := listing.symm
  have isProbe : probe = world.list.2.probe := probing
  rw [found?, isListed, isProbe, (AgentWorld.kept_list world).2]
  rfl

/-- A listing and a look at the devices are quiet, and so is what is published. -/
theorem stores_around {world last : AgentWorld} {listed : List BlockDevice} {probe : DeviceProbe}
    {writing news : List AgentExchange} (quiet : Quiet news)
    (leads : Leads AgentWorld.respond world
      ([⟨.listDevices, .ok listed⟩, ⟨.examine, probe⟩] ++ (writing ++ news)) last) :
    ∃ before after, before.store = world.store ∧ last.store = after.store ∧
      Leads AgentWorld.respond before writing after := by
  obtain ⟨before, looking, later⟩ := leads_append_iff.mp leads
  obtain ⟨after, writes, publishing⟩ := leads_append_iff.mp later
  have looked : Quiet [⟨.listDevices, .ok listed⟩, ⟨.examine, probe⟩] :=
    quiet_cons_iff.mpr ⟨rfl, quiet_cons_iff.mpr ⟨rfl, quiet_nil⟩⟩
  exact ⟨before, after, AgentWorld.store_of_quiet looked looking,
    AgentWorld.store_of_quiet quiet publishing, writes⟩

/-- **Every scan does one of these things.** -/
theorem scanned_of_goes {agent after : Agent} {world last : AgentWorld}
    {exchanges : List AgentExchange} {outcome : Outcome Unit}
    (goes : ScanGoes agent exchanges outcome after)
    (leads : Leads AgentWorld.respond world exchanges last) :
    Scanned agent world exchanges outcome after last.store := by
  cases goes with
  | @unlisted cause news reporter quiet =>
    have silent : Quiet (⟨.listDevices, .error cause⟩ :: news) := quiet_cons_iff.mpr ⟨rfl, quiet⟩
    have failed : world.list.1 = .error cause := (leads_cons_iff.mp leads).1.symm
    rw [AgentWorld.store_of_quiet silent leads]
    exact .unlisted (by rw [found?, failed]; rfl) silent
  | @unchanged listed probe known =>
    have silent : Quiet [⟨.listDevices, .ok listed⟩, ⟨.examine, probe⟩] :=
      quiet_cons_iff.mpr ⟨rfl, quiet_cons_iff.mpr ⟨rfl, quiet_nil⟩⟩
    rw [AgentWorld.store_of_quiet silent leads]
    exact .unchanged (found?_of_leads leads) known silent
  | unwritten unknown writes quiet =>
    obtain ⟨before, after, same, rest, writing⟩ := stores_around quiet leads
    rw [rest, AgentWorld.store_of_unwritten writes writing, same]
    refine .unwritten (found?_of_leads leads) unknown (fun silent => ?_) ?_
    · exact writes.not_quiet (quiet_cons_iff.mp (quiet_cons_iff.mp silent).2).2
    · show updates (_ ++ _) = []
      rw [updates_append, updates_of_unwritten writes, updates_of_quiet quiet]
      rfl
  | written unknown writes quiet =>
    obtain ⟨before, after, same, rest, writing⟩ := stores_around quiet leads
    obtain ⟨object, now, there, put, written⟩ := AgentWorld.store_of_written writes writing
    rw [rest, put, same]
    rw [same] at there
    refine .written (found?_of_leads leads) unknown (fun silent => ?_) ?_ there
    · exact writes.not_quiet (quiet_cons_iff.mp (quiet_cons_iff.mp silent).2).2
    · show updates (_ ++ _) = _
      rw [updates_append, written, updates_of_quiet quiet]
      rfl

theorem scanned_run (agent : Agent) (world : AgentWorld) :
    Scanned agent world (trace AgentWorld.respond agent.discoverDevices world)
      (world.run agent.discoverDevices).1.1 (world.run agent.discoverDevices).1.2
      (world.run agent.discoverDevices).2.store :=
  scanned_of_goes
    (scanGoes_of_conversation (conversation_trace AgentWorld.respond agent.discoverDevices world))
    (leads_trace AgentWorld.respond agent.discoverDevices world)

/-! ### The time of a node -/

/-- Something that happens over the time of a node. -/
inductive Happening (settings : AgentSettings) where
  /-- The agent scans. -/
  | scan (world : AgentWorld)
  /-- The agent creates the node's result unless it exists. -/
  | ensure (world : AgentWorld)
  /-- A new process takes the agent's place; it goes on with the gauge or has one of its own. -/
  | restart (reporter : Reporter) (gauge : Option Metrics.Gauge)
  /-- Somebody writes another object. -/
  | elsewhere (object : ResultObject) (other : settings.resultKey ≠ ResultStore.keyOf object)

/-- The agent's process, what it has asked so far, and the results in the cluster. -/
structure Situation where
  agent : Agent
  asked : List AgentExchange
  store : ResultStore

namespace Situation

/-- An agent that has just started, in a cluster with some results. -/
def start (settings : AgentSettings) (reporter : Reporter) (gauge : Metrics.Gauge)
    (objects : List ResultObject) : Situation :=
  ⟨.new settings reporter gauge, [], objects.foldl ResultStore.put .empty⟩

/-- A world, with the results that there are. -/
def meet (situation : Situation) (world : AgentWorld) : AgentWorld :=
  { world with store := situation.store }

/-- What the agent's program leaves behind. -/
def perform (situation : Situation) (world : AgentWorld)
    (program : AgentDialogue (Outcome Unit × Agent)) : Situation where
  agent := ((situation.meet world).run program).1.2
  asked := situation.asked ++ trace AgentWorld.respond program (situation.meet world)
  store := ((situation.meet world).run program).2.store

/-- Creates the node's result unless it exists; the agent stays as it is. -/
def ensuring (agent : Agent) : AgentDialogue (Outcome Unit × Agent) :=
  agent.settings.identity.ensure.bind fun outcome => .done (outcome, agent)

/-- The situation after something has happened. -/
def next {settings : AgentSettings} (situation : Situation) : Happening settings → Situation
  | .scan world => situation.perform world situation.agent.discoverDevices
  | .ensure world => situation.perform world (ensuring situation.agent)
  | .restart reporter gauge =>
    { agent := .new settings reporter (gauge.getD situation.agent.gauge)
      asked := []
      store := situation.store }
  | .elsewhere object _ => { situation with store := situation.store.put object }

/-- The situation after a past. -/
def after {settings : AgentSettings} (situation : Situation) (past : List (Happening settings)) :
    Situation :=
  past.foldl next situation

end Situation

/-- What was found last while the gauge is in use, given what was found last before. -/
def Happening.lastFound {settings : AgentSettings} (last : Option (List DiscoveredDevice)) :
    Happening settings → Option (List DiscoveredDevice)
  | .scan world => (found? world).or last
  | .restart _ (some _) => none
  | .restart _ none | .ensure _ | .elsewhere _ _ => last

/-- What was found by the last scan whose listing worked, as long as the gauge has been in use. -/
def lastFound {settings : AgentSettings} (past : List (Happening settings)) :
    Option (List DiscoveredDevice) :=
  past.foldl Happening.lastFound none

theorem list_meet (situation : Situation) (world : AgentWorld) :
    (situation.meet world).list.1 = world.list.1 := by
  rw [AgentWorld.list_fst, AgentWorld.list_fst]
  rfl

theorem found?_meet (situation : Situation) (world : AgentWorld) :
    found? (situation.meet world) = found? world := by
  rw [found?, list_meet]
  rfl

/-! ### What holds at all times -/

/-- **What holds at all times.** -/
structure Kept (settings : AgentSettings) (last : Option (List DiscoveredDevice))
    (situation : Situation) : Prop where
  ownSettings : situation.agent.settings = settings
  filed : situation.store.Filed
  /-- The agent knows the list of its last update, if there was one. -/
  known : situation.agent.known.map some =
    (updates situation.asked).getLast?.map ResultObject.devices?
  /-- What the agent knows stands in the store. -/
  stored : ∀ devices, situation.agent.known = some devices →
    ∃ object, situation.store.get? settings.resultKey = some object ∧
      object.devices? = some devices
  /-- The gauge has the number of devices that were found last. -/
  gauge : ∀ found, last = some found →
    Metrics.findSeries settings.nodeName situation.agent.gauge.series =
      some (Metrics.wrapSigned found.length)

section Steps

variable {settings : AgentSettings} {last : Option (List DiscoveredDevice)}
  {situation : Situation}

theorem kept_start (settings : AgentSettings) (reporter : Reporter) (gauge : Metrics.Gauge)
    (objects : List ResultObject) :
    Kept settings none (.start settings reporter gauge objects) where
  ownSettings := rfl
  filed := ResultStore.filed_foldl_put objects ResultStore.filed_empty
  known := rfl
  stored devices known := by cases known
  gauge found none := by cases none

/-- The new list is counted under the node's own name. -/
theorem findSeries_counting (kept : Kept settings last situation)
    (found : List DiscoveredDevice) :
    Metrics.findSeries settings.nodeName (situation.agent.counting found).gauge.series =
      some (Metrics.wrapSigned found.length) := by
  rw [← kept.ownSettings]
  exact Metrics.Gauge.findSeries_set _ _ _

theorem Kept.scanned (kept : Kept settings last situation) {world : AgentWorld}
    {calls : List AgentExchange} {outcome : Outcome Unit} {agent : Agent} {store : ResultStore}
    (scanned : Scanned situation.agent (situation.meet world) calls outcome agent store) :
    Kept settings ((found? world).or last) ⟨agent, situation.asked ++ calls, store⟩ := by
  have silent (none : updates calls = []) :
      updates (situation.asked ++ calls) = updates situation.asked := by
    rw [updates_append, none, List.append_nil]
  rw [← found?_meet situation world]
  cases scanned with
  | unlisted nothing quiet =>
    refine ⟨kept.ownSettings, kept.filed, ?_, kept.stored, ?_⟩
    · rw [silent (updates_of_quiet quiet)]
      exact kept.known
    · rw [nothing, Option.none_or]
      exact kept.gauge
  | unchanged found known quiet =>
    refine ⟨kept.ownSettings, kept.filed, ?_, kept.stored, ?_⟩
    · rw [silent (updates_of_quiet quiet)]
      exact kept.known
    · rw [found, Option.some_or]
      rintro _ ⟨rfl⟩
      exact findSeries_counting kept _
  | unwritten found unknown loud unwritten =>
    refine ⟨kept.ownSettings, kept.filed, ?_, kept.stored, ?_⟩
    · rw [silent unwritten]
      exact kept.known
    · rw [found, Option.some_or]
      rintro _ ⟨rfl⟩
      exact findSeries_counting kept _
  | @written found _ object now isFound unknown loud written there =>
    -- The object goes back to where it was got from, as every object is kept under its own key.
    rw [kept.ownSettings] at there
    refine ⟨kept.ownSettings, kept.filed.put _, ?_, ?_, ?_⟩
    · rw [updates_append, written, List.getLast?_concat]
      rfl
    · rintro _ ⟨rfl⟩
      have key : ResultStore.keyOf (object.withDevices found now) = settings.resultKey :=
        kept.filed _ object there
      rw [← key]
      exact ⟨_, ResultStore.get?_put _ _, rfl⟩
    · rw [isFound, Option.some_or]
      rintro _ ⟨rfl⟩
      exact findSeries_counting kept _

/-- Creating the result unless it exists writes no status, and creates nothing where there is
something. -/
theorem ensuring_spec {agent after : Agent} {world last : AgentWorld}
    {exchanges : List AgentExchange} {outcome : Outcome Unit}
    (conversation : Conversation (Situation.ensuring agent) exchanges (outcome, after))
    (leads : Leads AgentWorld.respond world exchanges last) :
    after = agent ∧ updates exchanges = [] ∧
      (last.store = world.store ∨
        (world.store.get? agent.settings.resultKey = none ∧
          last.store = world.store.put agent.settings.identity.newResult)) := by
  obtain ⟨ensured, ensures, same⟩ := conversation_bind_done_iff.mp conversation
  cases same
  refine ⟨rfl, ?_⟩
  cases ensureGoes_of_conversation ensures with
  | unread =>
    obtain ⟨read, effect, ended⟩ := AgentWorld.effect_of_leads leads
    cases leads_nil_iff.mp ended
    exact ⟨rfl, Or.inl effect⟩
  | present =>
    obtain ⟨read, ⟨-, effect⟩, ended⟩ := AgentWorld.effect_of_leads leads
    cases leads_nil_iff.mp ended
    exact ⟨rfl, Or.inl effect⟩
  | answered =>
    obtain ⟨read, ⟨missing, effect⟩, later⟩ := AgentWorld.effect_of_leads leads
    obtain ⟨final, creation, ended⟩ := AgentWorld.effect_of_leads later
    cases leads_nil_iff.mp ended
    rw [effect] at creation
    cases outcome with
    | error cause => exact ⟨rfl, Or.inl creation⟩
    | ok value => exact ⟨rfl, Or.inr ⟨missing.symm, creation⟩⟩

/-- An object under another key is no news for what the agent knows. -/
theorem stored_put {object : ResultObject} (kept : Kept settings last situation)
    (other : (∀ devices, situation.agent.known ≠ some devices) ∨
      settings.resultKey ≠ ResultStore.keyOf object) :
    ∀ devices, situation.agent.known = some devices →
      ∃ found, (situation.store.put object).get? settings.resultKey = some found ∧
        found.devices? = some devices := by
  intro devices known
  rcases other with unknown | differs
  · exact absurd known (unknown devices)
  · rw [ResultStore.get?_put_of_ne differs]
    exact kept.stored devices known

theorem Kept.ensured (kept : Kept settings last situation) {agent : Agent}
    {calls : List AgentExchange} {store : ResultStore} (same : agent = situation.agent)
    (silent : updates calls = [])
    (made : store = situation.store ∨
      (situation.store.get? situation.agent.settings.resultKey = none ∧
        store = situation.store.put situation.agent.settings.identity.newResult)) :
    Kept settings last ⟨agent, situation.asked ++ calls, store⟩ := by
  subst same
  have known : situation.agent.known.map some =
      (updates (situation.asked ++ calls)).getLast?.map ResultObject.devices? := by
    rw [updates_append, silent, List.append_nil]
    exact kept.known
  rcases made with rfl | ⟨missing, rfl⟩
  · exact ⟨kept.ownSettings, kept.filed, known, kept.stored, kept.gauge⟩
  · -- An empty result may be created only where there is none, and then nothing is known of it.
    have unknown : ∀ devices, situation.agent.known ≠ some devices := by
      intro devices isKnown
      obtain ⟨object, there, -⟩ := kept.stored devices isKnown
      rw [← kept.ownSettings, missing] at there
      cases there
    exact ⟨kept.ownSettings, kept.filed.put _, known, stored_put kept (Or.inl unknown), kept.gauge⟩

/-- **Whatever happens, what holds at all times goes on to hold.** -/
theorem Kept.next (kept : Kept settings last situation) (happening : Happening settings) :
    Kept settings (happening.lastFound last) (situation.next happening) := by
  cases happening with
  | scan world => exact kept.scanned (scanned_run situation.agent (situation.meet world))
  | ensure world =>
    obtain ⟨same, silent, store⟩ := ensuring_spec
      (conversation_trace AgentWorld.respond (Situation.ensuring situation.agent)
        (situation.meet world))
      (leads_trace AgentWorld.respond (Situation.ensuring situation.agent) (situation.meet world))
    exact kept.ensured same silent store
  | restart reporter gauge =>
    refine ⟨rfl, kept.filed, rfl, fun devices known => (by cases known), ?_⟩
    cases gauge with
    | none => exact kept.gauge
    | some gauge => exact fun found none => by cases none
  | elsewhere object other =>
    exact ⟨kept.ownSettings, kept.filed.put object, kept.known,
      stored_put kept (Or.inr other), kept.gauge⟩

theorem kept_after (settings : AgentSettings) (reporter : Reporter) (gauge : Metrics.Gauge)
    (objects : List ResultObject) (past : List (Happening settings)) :
    Kept settings (lastFound past)
      ((Situation.start settings reporter gauge objects).after past) := by
  induction past using List.reverseRecOn with
  | nil => exact kept_start settings reporter gauge objects
  | append_singleton past happening ih =>
    rw [lastFound, Situation.after, List.foldl_append, List.foldl_append]
    exact ih.next happening

end Steps

/-! ### What a scan does after any past -/

/-- The calls of a scan with their answers. -/
def Situation.scanCalls (situation : Situation) (world : AgentWorld) : List AgentExchange :=
  trace AgentWorld.respond situation.agent.discoverDevices (situation.meet world)

/-- What a scan returns. -/
def Situation.scanOutcome (situation : Situation) (world : AgentWorld) : Outcome Unit :=
  ((situation.meet world).run situation.agent.discoverDevices).1.1

/-- **A scan keeps up** with what is in the cluster and with what was found. -/
structure KeepsUp {settings : AgentSettings} (past : List (Happening settings))
    (world : AgentWorld) (before after : Situation) : Prop where
  /-- The agent knows nothing exactly if its process has not updated a status. -/
  unknown : after.agent.known = none ↔ updates after.asked = []
  /-- Otherwise it knows the devices of the last status that its process has updated. -/
  known : ∀ object, (updates after.asked).getLast? = some object →
    ∃ devices, object.devices? = some devices ∧ after.agent.known = some devices
  /-- A scan that fails changes neither what is known nor what is stored. -/
  failed : ∀ cause, before.scanOutcome world = .error cause →
    after.agent.known = before.agent.known ∧ after.store = before.store
  /-- The store is left alone exactly if the listing fails or finds what is known. -/
  silent : Quiet (before.scanCalls world) ↔
    (∃ cause, world.list.1 = .error cause) ∨
      ∃ found, found? world = some found ∧ before.agent.known = some found
  /-- After a scan that works, what it found stands in the node's result. -/
  stored : before.scanOutcome world = .ok () →
    ∃ found object, found? world = some found ∧
      after.store.get? settings.resultKey = some object ∧ object.devices? = some found
  /-- The gauge shows the number of devices that the last listing that worked has led to. -/
  gauge : ∀ found, lastFound (past ++ [.scan world]) = some found →
    (after.agent.gauge.get settings.nodeName).1 = Metrics.wrapSigned found.length ∧
      (found.length < 2 ^ 63 → (after.agent.gauge.get settings.nodeName).1 = found.length)

theorem found?_eq_none_iff (world : AgentWorld) :
    found? world = none ↔ ∃ cause, world.list.1 = .error cause := by
  rw [found?]
  cases world.list.1 with
  | error cause => exact iff_of_true rfl ⟨cause, rfl⟩
  | ok listed => exact iff_of_false (by simp [Except.toOption]) (by simp)

/-- What a scan asks of the store, by what it finds. -/
theorem Scanned.quiet_iff {agent after : Agent} {world : AgentWorld} {calls : List AgentExchange}
    {outcome : Outcome Unit} {store : ResultStore}
    (scanned : Scanned agent world calls outcome after store) :
    Quiet calls ↔ found? world = none ∨
      ∃ found, found? world = some found ∧ agent.known = some found := by
  cases scanned with
  | unlisted nothing quiet => exact iff_of_true quiet (Or.inl nothing)
  | unchanged found known quiet => exact iff_of_true quiet (Or.inr ⟨_, found, known⟩)
  | unwritten found unknown loud | written found unknown loud =>
    refine iff_of_false loud ?_
    rintro (nothing | ⟨other, isFound, known⟩)
    · rw [found] at nothing
      cases nothing
    · rw [found] at isFound
      cases isFound
      exact unknown known

theorem Scanned.unchanged_of_error {agent after : Agent} {world : AgentWorld}
    {calls : List AgentExchange} {cause : Error} {store : ResultStore}
    (scanned : Scanned agent world calls (.error cause) after store) :
    after.known = agent.known ∧ store = world.store := by
  cases scanned with
  | unlisted | unwritten => exact ⟨rfl, rfl⟩

theorem Scanned.known_of_ok {agent after : Agent} {world : AgentWorld}
    {calls : List AgentExchange} {store : ResultStore}
    (scanned : Scanned agent world calls (.ok ()) after store) :
    ∃ found, found? world = some found ∧ after.known = some found := by
  cases scanned with
  | unchanged found known => exact ⟨_, found, known⟩
  | written found => exact ⟨_, found, rfl⟩

/-- What is known is known from the last update. -/
theorem Kept.known_iff {settings : AgentSettings} {last : Option (List DiscoveredDevice)}
    {situation : Situation} (kept : Kept settings last situation) :
    (situation.agent.known = none ↔ updates situation.asked = []) ∧
      ∀ object, (updates situation.asked).getLast? = some object →
        ∃ devices, object.devices? = some devices ∧ situation.agent.known = some devices := by
  have known := kept.known
  rw [← List.getLast?_eq_none_iff]
  cases isKnown : situation.agent.known with
  | none =>
    rw [isKnown, Option.map_none, eq_comm, Option.map_eq_none_iff] at known
    rw [known]
    exact ⟨iff_of_true rfl rfl, fun object none => by cases none⟩
  | some devices =>
    rw [isKnown, Option.map_some, eq_comm, Option.map_eq_some_iff] at known
    obtain ⟨object, isLast, written⟩ := known
    rw [isLast]
    refine ⟨iff_of_false (Option.some_ne_none _) (Option.some_ne_none _), ?_⟩
    rintro _ ⟨rfl⟩
    exact ⟨devices, written, rfl⟩

/-- **What the agent knows is what it has written, and a scan that works leaves the result up to
date**, whatever has happened before. -/
theorem scan_keeps_up (settings : AgentSettings) (reporter : Reporter) (gauge : Metrics.Gauge)
    (objects : List ResultObject) (past : List (Happening settings)) (world : AgentWorld) :
    KeepsUp past world ((Situation.start settings reporter gauge objects).after past)
      ((Situation.start settings reporter gauge objects).after (past ++ [.scan world])) := by
  have kept := kept_after settings reporter gauge objects (past ++ [.scan world])
  have next : (Situation.start settings reporter gauge objects).after (past ++ [.scan world]) =
      ((Situation.start settings reporter gauge objects).after past).next
        (.scan world : Happening settings) := by
    rw [Situation.after, List.foldl_append]
    rfl
  rw [next] at kept ⊢
  generalize (Situation.start settings reporter gauge objects).after past = before at kept
  have scanned := scanned_run before.agent (before.meet world)
  constructor
  case unknown => exact kept.known_iff.1
  case known => exact kept.known_iff.2
  case failed =>
    intro cause failed
    have outcome : ((before.meet world).run before.agent.discoverDevices).1.1 = .error cause :=
      failed
    rw [outcome] at scanned
    exact scanned.unchanged_of_error
  case silent =>
    rw [← found?_eq_none_iff, ← found?_meet before world]
    exact scanned.quiet_iff
  case stored =>
    intro worked
    have outcome : ((before.meet world).run before.agent.discoverDevices).1.1 = .ok () := worked
    rw [outcome] at scanned
    obtain ⟨found, isFound, known⟩ := scanned.known_of_ok
    rw [found?_meet] at isFound
    obtain ⟨object, there, devices⟩ := kept.stored found known
    exact ⟨found, object, isFound, there, devices⟩
  case gauge =>
    intro found isLast
    have shown := Metrics.Gauge.get_of_findSeries (kept.gauge found isLast)
    exact ⟨shown, fun fits => shown.trans (Metrics.wrapSigned_of_lt fits)⟩

end NodeStorage.Discovery
