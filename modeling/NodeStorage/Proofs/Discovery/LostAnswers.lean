/-
**Updates whose answer is lost.**

A scan writes nothing when it finds the list that was written last. The agent takes as written what
it was told was written, but the answer to an update can be lost on its way back: the agent is told
of an error, and the cluster has the list all the same. When the node then goes back to the devices
that it had before, the agent finds what it knows, says that the scan has worked, and leaves the
lost list in the result.

* `respondLossy` — a world in which an update that is answered with an error may still have been
  made.
* `ScannedLossy`, `scannedLossy_run` — what one scan does there.
* `doubt` — the list that has reached the cluster behind the agent's back since its last update that
  it was told of.
* `current_iff` — **a scan that works leaves the list current unless there is a doubt about another
  list and the scan is silent.**
* `stale_after_lost_answer` — so not every scan that works leaves the list current.
-/

import NodeStorage.Proofs.Device.Reported
import NodeStorage.Proofs.Discovery.KnownList

namespace NodeStorage.Discovery

open Dialogue InMemory

/-! ### Worlds that lose answers -/

/-- The store after a call, when an update that was answered with an error may have been made. -/
def reached (lost : Bool) (call : Call) (answer : call.Answer) (store : ResultStore) :
    ResultStore :=
  match call, answer with
  | .updateResultStatus object, .error _ => if lost then store.put object else store
  | _, _ => store

/-- Answers a question in a world; when answers are lost, an update that fails is made all the
same. -/
def respondLossy (lost : Bool) (call : Call) (world : AgentWorld) : call.Answer × AgentWorld :=
  let (answer, after) := AgentWorld.respond call world
  (answer, { after with store := reached lost call answer after.store })

theorem respondLossy_eq (lost : Bool) (call : Call) (world : AgentWorld) :
    respondLossy lost call world =
      ((AgentWorld.respond call world).1,
        { (AgentWorld.respond call world).2 with
          store := reached lost call (AgentWorld.respond call world).1
            (AgentWorld.respond call world).2.store }) := rfl

/-- The exchange is not an update that failed. -/
def isTold : AgentExchange → Bool
  | ⟨.updateResultStatus _, .error _⟩ => false
  | _ => true

theorem reached_of_told {lost : Bool} {call : Call} {answer : call.Answer} {store : ResultStore}
    (told : lost = false ∨ isTold ⟨call, answer⟩ = true) :
    reached lost call answer store = store := by
  unfold reached
  split
  · rcases told with rfl | told
    · rfl
    · cases told
  · rfl

theorem respondLossy_of_told {lost : Bool} {call : Call} {world : AgentWorld}
    (told : lost = false ∨ isTold ⟨call, (AgentWorld.respond call world).1⟩ = true) :
    respondLossy lost call world = AgentWorld.respond call world := by
  rw [respondLossy_eq, reached_of_told told]

theorem told_of_quiet {exchanges : List AgentExchange} (quiet : Quiet exchanges) :
    exchanges.all isTold = true := by
  refine List.all_eq_true.mpr fun exchange member => ?_
  have other := quiet exchange member
  obtain ⟨call, answer⟩ := exchange
  cases call with
  | updateResultStatus => cases other
  | listDevices | examine | getResult | createResult | publish | clock | wait => rfl

/-- **As long as no update fails, nothing is lost.** -/
theorem leads_of_told {lost : Bool} {world last : AgentWorld} {exchanges : List AgentExchange}
    (told : lost = false ∨ exchanges.all isTold = true)
    (leads : Leads (respondLossy lost) world exchanges last) :
    Leads AgentWorld.respond world exchanges last := by
  induction leads with
  | stay world => exact .stay world
  | @step world last exchanges call leads ih =>
    rw [List.all_cons, Bool.and_eq_true] at told
    have later := ih (told.imp_right And.right)
    rw [respondLossy_of_told (told.imp_right And.left)] at later ⊢
    exact .step call later

/-- An update that is answered with an error, and made all the same. -/
theorem store_of_untold {world : AgentWorld} {object : ResultObject} {cause : Error}
    (refused : .error cause = (respondLossy true (.updateResultStatus object) world).1) :
    (respondLossy true (.updateResultStatus object) world).2.store = world.store.put object := by
  have effect := AgentWorld.effect_respond (.updateResultStatus object) world
  have answer : (AgentWorld.respond (.updateResultStatus object) world).1 = .error cause :=
    refused.symm
  show reached true _ (AgentWorld.respond _ world).1 (AgentWorld.respond _ world).2.store = _
  rw [answer] at effect ⊢
  have unchanged : (AgentWorld.respond (.updateResultStatus object) world).2.store = world.store :=
    effect
  rw [unchanged]
  rfl

/-- The list that an update has brought to the cluster although it was answered with an error. -/
def untold? (lost : Bool) (exchanges : List AgentExchange) : Option (List DiscoveredDevice) :=
  if lost then
    exchanges.findSome? fun exchange =>
      match exchange with
      | ⟨.updateResultStatus object, .error _⟩ => object.devices?
      | _ => none
  else none

theorem untold?_of_told {lost : Bool} {exchanges : List AgentExchange}
    (told : lost = false ∨ exchanges.all isTold = true) : untold? lost exchanges = none := by
  rw [untold?, ite_eq_right_iff]
  rintro rfl
  refine List.findSome?_eq_none_iff.mpr fun exchange member => ?_
  split
  · cases List.all_eq_true.mp (told.resolve_left (by simp)) _ member
  · rfl

/-- Writing a list in a world that loses the answer. -/
theorem store_of_lost_answer {identity : ResultIdentity} {devices : List DiscoveredDevice}
    {object : ResultObject} {now : Instant} {cause : Error} {world last : AgentWorld}
    (leads : Leads (respondLossy true) world
      [⟨.getResult identity.namespaceName identity.resultName, .ok (some object)⟩, ⟨.clock, now⟩,
        ⟨.updateResultStatus (object.withDevices devices now), .error cause⟩] last) :
    world.store.get? (identity.namespaceName, identity.resultName) = some object ∧
      last.store = world.store.put (object.withDevices devices now) := by
  have reads : [⟨.getResult identity.namespaceName identity.resultName, .ok (some object)⟩,
      ⟨.clock, now⟩].all isTold = true := rfl
  obtain ⟨before, reading, updating⟩ := leads_append_iff.mp
    (show Leads (respondLossy true) world ([_, _] ++ [_]) last from leads)
  obtain ⟨got, ⟨there, same⟩, later⟩ :=
    AgentWorld.effect_of_leads (leads_of_told (Or.inr reads) reading)
  obtain ⟨timed, unchanged, ended⟩ := AgentWorld.effect_of_leads later
  cases leads_nil_iff.mp ended
  obtain ⟨refused, ended⟩ := leads_cons_iff.mp updating
  cases leads_nil_iff.mp ended
  rw [store_of_untold refused, unchanged.trans same]
  exact ⟨there.symm, rfl⟩

/-! ### One scan -/

/-- **What a scan does in a world that loses answers.** -/
inductive ScannedLossy (agent : Agent) (world : AgentWorld) (lost : Bool) :
    List AgentExchange → Outcome Unit → Agent → ResultStore → Prop
  | told {asked : List AgentExchange} {outcome : Outcome Unit} {after : Agent}
      {store : ResultStore} :
      untold? lost asked = none → Scanned agent world asked outcome after store →
      ScannedLossy agent world lost asked outcome after store
  | untold {asked : List AgentExchange} {found : List DiscoveredDevice} {cause : Error}
      {reporter : Reporter} {object : ResultObject} {now : Instant} :
      found? world = some found → updates asked = [] → untold? lost asked = some found →
      world.store.get? agent.settings.resultKey = some object →
      ScannedLossy agent world lost asked (.error cause)
        { agent.counting found with reporter := reporter, state := .idle }
        (world.store.put (object.withDevices found now))

/-- A scan that is told of everything keeps its story; only an update that fails can be lost. -/
theorem scannedLossy_of_goes {agent after : Agent} {world last : AgentWorld} {lost : Bool}
    {exchanges : List AgentExchange} {outcome : Outcome Unit}
    (goes : ScanGoes agent exchanges outcome after)
    (leads : Leads (respondLossy lost) world exchanges last) :
    ScannedLossy agent world lost exchanges outcome after last.store := by
  by_cases told : lost = false ∨ exchanges.all isTold = true
  · exact .told (untold?_of_told told) (scanned_of_goes goes (leads_of_told told leads))
  · obtain ⟨isLost, notTold⟩ := not_or.mp told
    obtain rfl : lost = true := eq_true_of_ne_false isLost
    cases goes with
    | unlisted quiet => exact absurd (told_of_quiet (quiet_cons_iff.mpr ⟨rfl, quiet⟩)) notTold
    | unchanged => exact absurd rfl notTold
    | written _ writes quiet =>
      cases writes with
      | answered => exact absurd (told_of_quiet quiet) notTold
    | @unwritten listed probe cause writing news reporter _ writes quiet =>
      cases writes with
      | unread => exact absurd (told_of_quiet quiet) notTold
      | missing => exact absurd (told_of_quiet quiet) notTold
      | @answered object now =>
        have looks : [⟨.listDevices, .ok listed⟩, ⟨.examine, probe⟩].all isTold = true := rfl
        obtain ⟨before, looking, later⟩ := leads_append_iff.mp
          (show Leads (respondLossy true) world ([_, _] ++ _) last from leads)
        obtain ⟨after, writes, publishing⟩ := leads_append_iff.mp
          (show Leads (respondLossy true) before ([_, _, _] ++ _) last from later)
        have looking := leads_of_told (Or.inr looks) looking
        have publishing := leads_of_told (Or.inr (told_of_quiet quiet)) publishing
        have same : before.store = world.store := AgentWorld.store_of_quiet
          (quiet_cons_iff.mpr ⟨rfl, quiet_cons_iff.mpr ⟨rfl, quiet_nil⟩⟩) looking
        obtain ⟨there, put⟩ := store_of_lost_answer writes
        rw [AgentWorld.store_of_quiet quiet publishing, put, same]
        rw [same] at there
        refine .untold (found?_of_leads looking) ?_ rfl there
        have none : updates news = [] := updates_of_quiet quiet
        exact none

theorem scannedLossy_run (agent : Agent) (world : AgentWorld) (lost : Bool) :
    ScannedLossy agent world lost (trace (respondLossy lost) agent.discoverDevices world)
      (Dialogue.run (respondLossy lost) agent.discoverDevices world).1.1
      (Dialogue.run (respondLossy lost) agent.discoverDevices world).1.2
      (Dialogue.run (respondLossy lost) agent.discoverDevices world).2.store :=
  scannedLossy_of_goes
    (scanGoes_of_conversation
      (conversation_trace (respondLossy lost) agent.discoverDevices world))
    (leads_trace (respondLossy lost) agent.discoverDevices world)

/-! ### Any number of scans -/

/-- A scan: the world that it meets, and whether the answer to an update is lost there. -/
structure LossyScan where
  /-- The world, but for the results in it. -/
  world : AgentWorld
  /-- An update that is answered with an error is made all the same. -/
  lost : Bool

/-- What there is between two scans: the agent, the results, and the list that has reached the
cluster behind the agent's back since the last update that it was told of. -/
structure Standing where
  agent : Agent
  store : ResultStore
  doubt : Option (List DiscoveredDevice)

namespace Standing

/-- An agent that has just started, in a cluster with some results. -/
def start (settings : AgentSettings) (reporter : Reporter) (gauge : Metrics.Gauge)
    (objects : List ResultObject) : Standing :=
  ⟨.new settings reporter gauge, objects.foldl ResultStore.put .empty, none⟩

/-- The world of a scan, with the results that there are. -/
def meet (standing : Standing) (scan : LossyScan) : AgentWorld :=
  { scan.world with store := standing.store }

/-- The calls of a scan with their answers. -/
def calls (standing : Standing) (scan : LossyScan) : List AgentExchange :=
  trace (respondLossy scan.lost) standing.agent.discoverDevices (standing.meet scan)

/-- What a scan returns. -/
def outcome (standing : Standing) (scan : LossyScan) : Outcome Unit :=
  (Dialogue.run (respondLossy scan.lost) standing.agent.discoverDevices (standing.meet scan)).1.1

/-- What there is after a scan. -/
def next (standing : Standing) (scan : LossyScan) : Standing :=
  let ended := Dialogue.run (respondLossy scan.lost) standing.agent.discoverDevices
    (standing.meet scan)
  { agent := ended.1.2
    store := ended.2.store
    doubt :=
      if updates (standing.calls scan) = [] then
        (untold? scan.lost (standing.calls scan)).or standing.doubt
      else none }

/-- The list of devices in the node's result. -/
def stored (standing : Standing) : Option (List DiscoveredDevice) :=
  (standing.store.get? standing.agent.settings.resultKey).bind ResultObject.devices?

/-- What there is after some scans. -/
def after (standing : Standing) (past : List LossyScan) : Standing :=
  past.foldl next standing

end Standing

/-- **What holds at all times**: what the agent knows stands in the result, unless there is a doubt,
and then the list in doubt does. -/
structure Trusted (settings : AgentSettings) (standing : Standing) : Prop where
  ownSettings : standing.agent.settings = settings
  filed : standing.store.Filed
  stored : ∀ devices, standing.agent.known = some devices →
    standing.stored = some (standing.doubt.getD devices)

section Steps

variable {settings : AgentSettings} {standing : Standing}

theorem trusted_start (settings : AgentSettings) (reporter : Reporter) (gauge : Metrics.Gauge)
    (objects : List ResultObject) : Trusted settings (.start settings reporter gauge objects) where
  ownSettings := rfl
  filed := ResultStore.filed_foldl_put objects ResultStore.filed_empty
  stored devices known := by cases known

/-- The list that a scan writes stands in the node's result afterwards. -/
theorem stored_withDevices (trusted : Trusted settings standing) {object : ResultObject}
    (there : standing.store.get? standing.agent.settings.resultKey = some object)
    (found : List DiscoveredDevice) (now : Instant) :
    ((standing.store.put (object.withDevices found now)).get?
      standing.agent.settings.resultKey).bind ResultObject.devices? = some found := by
  have key : ResultStore.keyOf (object.withDevices found now) = standing.agent.settings.resultKey :=
    trusted.filed _ object there
  rw [← key, ResultStore.get?_put]
  rfl

/-- What a scan leaves behind, when it does what `ScannedLossy` says. -/
theorem Trusted.scanned (trusted : Trusted settings standing) {scan : LossyScan}
    {asked : List AgentExchange} {outcome : Outcome Unit} {agent : Agent} {store : ResultStore}
    (scanned : ScannedLossy standing.agent (standing.meet scan) scan.lost asked outcome agent
      store) :
    Trusted settings
      ⟨agent, store, if updates asked = [] then (untold? scan.lost asked).or standing.doubt
        else none⟩ := by
  cases scanned with
  | told told scanned =>
    rw [told, Option.none_or]
    cases scanned with
    | unlisted _ quiet | unchanged _ _ quiet =>
      rw [if_pos (updates_of_quiet quiet)]
      exact ⟨trusted.ownSettings, trusted.filed, trusted.stored⟩
    | unwritten _ _ _ silent =>
      rw [if_pos silent]
      exact ⟨trusted.ownSettings, trusted.filed, trusted.stored⟩
    | written _ _ _ written there =>
      rw [written, if_neg (List.cons_ne_nil _ _)]
      refine ⟨trusted.ownSettings, trusted.filed.put _, ?_⟩
      rintro _ ⟨rfl⟩
      exact stored_withDevices trusted there _ _
  | untold _ silent untold there =>
    rw [if_pos silent, untold, Option.some_or]
    refine ⟨trusted.ownSettings, trusted.filed.put _, fun _ _ => ?_⟩
    exact stored_withDevices trusted there _ _

/-- **After any scans, what holds at all times holds.** -/
theorem trusted_after (settings : AgentSettings) (reporter : Reporter) (gauge : Metrics.Gauge)
    (objects : List ResultObject) (past : List LossyScan) :
    Trusted settings ((Standing.start settings reporter gauge objects).after past) := by
  induction past using List.reverseRecOn with
  | nil => exact trusted_start settings reporter gauge objects
  | append_singleton past scan ih =>
    rw [Standing.after, List.foldl_append]
    exact ih.scanned (scannedLossy_run _ _ _)

/-- Where no answer is lost there is no doubt. -/
theorem doubt_after {past : List LossyScan} {start : Standing} (sure : start.doubt = none)
    (told : ∀ scan ∈ past, scan.lost = false) : (start.after past).doubt = none := by
  induction past generalizing start with
  | nil => exact sure
  | cons scan past ih =>
    obtain ⟨first, later⟩ := List.forall_mem_cons.mp told
    refine @ih (start.next scan) ?_ later
    show (if _ then (untold? scan.lost _).or start.doubt else none) = none
    rw [first, sure]
    exact ite_self none

/-- A scan that works either writes what it finds or finds what is known. -/
theorem ScannedLossy.of_ok {agent after : Agent} {world : AgentWorld} {lost : Bool}
    {asked : List AgentExchange} {store : ResultStore}
    (scanned : ScannedLossy agent world lost asked (.ok ()) after store) :
    ∃ found, found? world = some found ∧
      ((Quiet asked ∧ agent.known = some found ∧ store = world.store) ∨
        (¬ Quiet asked ∧ after.known = some found ∧ updates asked ≠ [])) := by
  cases scanned with
  | told _ scanned =>
    cases scanned with
    | unchanged found known quiet => exact ⟨_, found, Or.inl ⟨quiet, known, rfl⟩⟩
    | written found _ loud written =>
      exact ⟨_, found, Or.inr ⟨loud, rfl, by rw [written]; exact List.cons_ne_nil _ _⟩⟩

end Steps

/-! ### What a scan that works leaves -/

/-- **A scan that works leaves the list that it found in the node's result**, unless another list
has reached the cluster behind the agent's back and the scan is silent. -/
theorem current_iff (settings : AgentSettings) (reporter : Reporter) (gauge : Metrics.Gauge)
    (objects : List ResultObject) (past : List LossyScan) (scan : LossyScan)
    (worked : ((Standing.start settings reporter gauge objects).after past).outcome scan =
      .ok ()) :
    ∃ found, found? scan.world = some found ∧
      (((Standing.start settings reporter gauge objects).after (past ++ [scan])).stored =
          some found ↔
        ¬ Quiet (((Standing.start settings reporter gauge objects).after past).calls scan) ∨
          ∀ list, ((Standing.start settings reporter gauge objects).after past).doubt = some list →
            list = found) ∧
      ((∀ earlier ∈ past, earlier.lost = false) →
        ((Standing.start settings reporter gauge objects).after (past ++ [scan])).stored =
          some found) := by
  have trusted := trusted_after settings reporter gauge objects past
  have trustedAfter := trusted_after settings reporter gauge objects (past ++ [scan])
  have sure : (∀ earlier ∈ past, earlier.lost = false) →
      ((Standing.start settings reporter gauge objects).after past).doubt = none := doubt_after rfl
  have next : (Standing.start settings reporter gauge objects).after (past ++ [scan]) =
      ((Standing.start settings reporter gauge objects).after past).next scan := by
    rw [Standing.after, List.foldl_append]
    rfl
  rw [next] at trustedAfter ⊢
  generalize (Standing.start settings reporter gauge objects).after past = before at *
  have scanned := scannedLossy_run before.agent (before.meet scan) scan.lost
  have outcome : (Dialogue.run (respondLossy scan.lost) before.agent.discoverDevices
    (before.meet scan)).1.1 = .ok () := worked
  rw [outcome] at scanned
  obtain ⟨found, isFound, how⟩ := scanned.of_ok
  have isFound : found? scan.world = some found :=
    (found?_meet ⟨before.agent, [], before.store⟩ scan.world).symm.trans isFound
  refine ⟨found, isFound, ?_⟩
  rcases how with ⟨quiet, known, same⟩ | ⟨loud, known, written⟩
  · have kept : (before.next scan).stored = some (before.doubt.getD found) := by
      rw [← trusted.stored found known, Standing.stored, trustedAfter.ownSettings, Standing.stored,
        trusted.ownSettings]
      exact congrArg (fun store : ResultStore => (store.get? _).bind _) same
    rw [kept]
    cases doubted : before.doubt with
    | none => exact ⟨iff_of_true rfl (Or.inr (by simp)), fun _ => rfl⟩
    | some list =>
      refine ⟨⟨fun current => Or.inr ?_, ?_⟩, fun told => ?_⟩
      · rintro _ ⟨rfl⟩
        exact Option.some.inj current
      · rintro (loud | agrees)
        · exact absurd quiet loud
        · exact congrArg some (agrees list rfl)
      · rw [sure told] at doubted
        cases doubted
  · have certain : (before.next scan).doubt = none := if_neg written
    have current : (before.next scan).stored = some found := by
      rw [trustedAfter.stored found known, certain]
      rfl
    exact ⟨iff_of_true current (Or.inl loud), fun _ => current⟩

/-- The settings of an agent on a node. -/
def AgentSettings.onNode (nodeName : String) : AgentSettings :=
  { AgentSettings.standard with nodeName := nodeName, namespaceName := "storage" }

/-- A scan that lists one disk. -/
def LossyScan.ofDisk (name : String) (failures : Failures) (lost : Bool) : LossyScan where
  world :=
    { AgentWorld.new default with
      listings := [⟨.ok [disk], none⟩], probe := .idle, failures := failures }
  lost := lost
where
  disk : BlockDevice :=
    { BlockDevice.ofKernelName name with
      name := name, deviceType := "disk", readOnly := some false }

/-- A disk is swapped for another one, and the answer to the update is lost. -/
def diskSwapped : List LossyScan :=
  [.ofDisk "sda" [] false, .ofDisk "sdb" [("update", .internal "timed out")] true]

/-- The scan that finds the first disk again works and leaves the other one in the result. -/
theorem scan_after_swap :
    let settings := AgentSettings.onNode "node-1"
    let start := Standing.start settings (.new none) Metrics.discoveredDevices
      [settings.identity.newResult]
    let scan := LossyScan.ofDisk "sda" [] false
    ((start.after diskSwapped).outcome scan = .ok () ∧
      ∃ found, found? scan.world = some found ∧
      ((start.after (diskSwapped ++ [scan])).stored = some found ↔
        ¬ Quiet ((start.after diskSwapped).calls scan) ∨
          ∀ list, (start.after diskSwapped).doubt = some list → list = found) ∧
      ((∀ earlier ∈ diskSwapped, earlier.lost = false) →
        (start.after (diskSwapped ++ [scan])).stored = some found)) :=
  ⟨by decide +kernel, current_iff _ _ _ _ diskSwapped _ (by decide +kernel)⟩

/-- **Not every scan that works leaves the list that it found in the node's result.** -/
theorem stale_after_lost_answer :
    ¬ ∀ (settings : AgentSettings) (reporter : Reporter) (gauge : Metrics.Gauge)
        (objects : List ResultObject) (past : List LossyScan) (scan : LossyScan),
      ((Standing.start settings reporter gauge objects).after past).outcome scan = .ok () →
        ((Standing.start settings reporter gauge objects).after (past ++ [scan])).stored =
          found? scan.world := by
  intro always
  have stale := always (.onNode "node-1") (.new none) Metrics.discoveredDevices
    [(AgentSettings.onNode "node-1").identity.newResult] diskSwapped (.ofDisk "sda" [] false)
    (by decide +kernel)
  revert stale
  decide +kernel

end NodeStorage.Discovery
