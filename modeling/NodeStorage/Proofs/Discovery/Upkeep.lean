/-
**Upkeep touches only the status of the node's own result.**

The result of a node is created unless it exists, and its list of devices is replaced, in any order
and as often as one likes. The store may hold anything at the beginning, as long as every object is
kept under its own key, and each operation meets a world of its own, in which any of its calls may
fail.

* `Done`, `done_run` — what one operation does: the writes that it asks for, its outcome and the
  store afterwards.
* `Done.others`, `Done.lasting` — what every operation leaves as it was; `others_storeAfter` and
  `lasting_storeAfter` say the same of any number of them.
* `upkeep_minds_its_own` — **what an operation does, after any past.**
-/

import NodeStorage.Proofs.Discovery.KnownList

namespace NodeStorage.Discovery

open Dialogue InMemory

/-! ### Operations -/

/-- What is done to the result of a node. -/
inductive Upkeep where
  /-- It is created unless it exists. -/
  | ensure
  /-- Its list of devices is replaced. -/
  | update (devices : List DiscoveredDevice)

/-- The program of an operation. -/
def Upkeep.program (identity : ResultIdentity) : Upkeep → AgentDialogue (Outcome Unit)
  | .ensure => identity.ensure
  | .update devices => identity.updateStatus devices

/-- Where the result of a node is kept. -/
def ResultIdentity.resultKey (identity : ResultIdentity) : ObjectKey :=
  (identity.namespaceName, identity.resultName)

/-- The question for the result of a node. -/
def ResultIdentity.reading (identity : ResultIdentity) : Call :=
  .getResult identity.namespaceName identity.resultName

/-- The call changes result objects if it works. -/
def Call.isWrite : Call → Bool
  | .createResult _ | .updateResultStatus _ => true
  | .listDevices | .examine | .getResult _ _ | .publish _ | .clock | .wait _ _ => false

/-- The writes that were asked for, whatever they were answered. -/
def writes (exchanges : List AgentExchange) : List Call :=
  (exchanges.map fun exchange => exchange.question).filter Call.isWrite

/-! ### Calls that are to fail -/

/-- The error that a call about results is to fail with, if it is to fail in this world. -/
def planned? (world : AgentWorld) : Call → Option Error
  | .getResult _ name => world.failures.of? "get" name
  | .createResult object => world.failures.of? "create" object.metadata.anyName
  | .updateResultStatus object => world.failures.of? "update" object.metadata.anyName
  | .listDevices | .examine | .publish _ | .clock | .wait _ _ => none

/-- The error in the answer to a call about results. -/
def Call.refusal? : (call : Call) → call.Answer → Option Error
  | .getResult _ _, .error cause => some cause
  | .createResult _, .error cause => some cause
  | .updateResultStatus _, .error cause => some cause
  | _, _ => none

/-- **A call about results fails exactly if it is to.** -/
theorem refusal?_respond (call : Call) (world : AgentWorld) :
    call.refusal? (AgentWorld.respond call world).1 = planned? world call := by
  cases call with
  | listDevices | examine | publish | clock | wait => rfl
  | getResult namespaceName name =>
    rw [AgentWorld.respond, AgentWorld.answer, Failures.guard, planned?]
    cases world.failures.of? "get" name <;> rfl
  | createResult object =>
    rw [AgentWorld.respond, AgentWorld.answer, Failures.guard, planned?]
    cases world.failures.of? "create" object.metadata.anyName <;> rfl
  | updateResultStatus object =>
    rw [AgentWorld.respond, AgentWorld.answer, Failures.guard, planned?]
    cases world.failures.of? "update" object.metadata.anyName <;> rfl

/-- A look at the results does not change what is to fail. -/
theorem planned?_getResult (namespaceName name : String) (world : AgentWorld) :
    planned? (AgentWorld.respond (.getResult namespaceName name) world).2 = planned? world := by
  have same : (AgentWorld.respond (.getResult namespaceName name) world).2.failures =
      world.failures := by
    rw [AgentWorld.respond, AgentWorld.answer, Failures.guard]
    cases world.failures.of? "get" name <;> rfl
  funext call
  cases call <;> simp only [planned?, same]

/-! ### One operation -/

section Operations

variable {identity : ResultIdentity} {world : AgentWorld}

/-- **What an operation does in a world**: the writes, the outcome and the store afterwards. -/
inductive Done (identity : ResultIdentity) (world : AgentWorld) :
    Upkeep → List Call → Outcome Unit → ResultStore → Prop
  | unread {operation : Upkeep} {cause : Error} :
      planned? world identity.reading = some cause →
      Done identity world operation [] (.error cause) world.store
  | present {object : ResultObject} :
      planned? world identity.reading = none →
      world.store.get? identity.resultKey = some object →
      Done identity world .ensure [] (.ok ()) world.store
  | uncreated {cause : Error} :
      planned? world identity.reading = none → world.store.get? identity.resultKey = none →
      planned? world (.createResult identity.newResult) = some cause →
      Done identity world .ensure [.createResult identity.newResult] (.error cause) world.store
  | created :
      planned? world identity.reading = none → world.store.get? identity.resultKey = none →
      planned? world (.createResult identity.newResult) = none →
      Done identity world .ensure [.createResult identity.newResult] (.ok ())
        (world.store.put identity.newResult)
  | missing {devices : List DiscoveredDevice} :
      planned? world identity.reading = none → world.store.get? identity.resultKey = none →
      Done identity world (.update devices) [] (.error identity.missingResult) world.store
  | unwritten {devices : List DiscoveredDevice} {object : ResultObject} {now : Instant}
      {cause : Error} :
      planned? world identity.reading = none →
      world.store.get? identity.resultKey = some object →
      planned? world (.updateResultStatus (object.withDevices devices now)) = some cause →
      Done identity world (.update devices) [.updateResultStatus (object.withDevices devices now)]
        (.error cause) world.store
  | written {devices : List DiscoveredDevice} {object : ResultObject} {now : Instant} :
      planned? world identity.reading = none →
      world.store.get? identity.resultKey = some object →
      planned? world (.updateResultStatus (object.withDevices devices now)) = none →
      Done identity world (.update devices) [.updateResultStatus (object.withDevices devices now)]
        (.ok ()) (world.store.put (object.withDevices devices now))

/-- The first thing that any operation does is to look for the result. -/
theorem looked_of_leads {last : AgentWorld} {answer : Outcome (Option ResultObject)}
    {later : List AgentExchange}
    (leads : Leads AgentWorld.respond world
      (⟨.getResult identity.namespaceName identity.resultName, answer⟩ :: later) last) :
    ∃ next, Leads AgentWorld.respond next later last ∧ next.store = world.store ∧
      planned? next = planned? world ∧
      match answer with
      | .error cause => planned? world identity.reading = some cause
      | .ok found =>
        planned? world identity.reading = none ∧ world.store.get? identity.resultKey = found := by
  obtain ⟨same, later⟩ := leads_cons_iff.mp leads
  have fails := refusal?_respond (.getResult identity.namespaceName identity.resultName) world
  have effect :=
    AgentWorld.effect_respond (.getResult identity.namespaceName identity.resultName) world
  rw [← same] at fails effect
  cases answer with
  | error cause => exact ⟨_, later, effect, planned?_getResult _ _ world, fails.symm⟩
  | ok found =>
    exact ⟨_, later, effect.2, planned?_getResult _ _ world, fails.symm, effect.1.symm⟩

/-- A write does what its answer says, and fails exactly if it is to. -/
theorem wrote_of_leads {last : AgentWorld} {call : Call} {answer : call.Answer}
    (leads : Leads AgentWorld.respond world [⟨call, answer⟩] last) :
    call.refusal? answer = planned? world call ∧
      AgentWorld.Effect call answer world.store last.store := by
  obtain ⟨rfl, ended⟩ := leads_cons_iff.mp leads
  cases leads_nil_iff.mp ended
  exact ⟨refusal?_respond call world, AgentWorld.effect_respond call world⟩

theorem done_of_ensureGoes {last : AgentWorld} {exchanges : List AgentExchange}
    {outcome : Outcome Unit} (goes : EnsureGoes identity exchanges outcome)
    (leads : Leads AgentWorld.respond world exchanges last) :
    Done identity world .ensure (writes exchanges) outcome last.store := by
  cases goes with
  | unread =>
    obtain ⟨next, ended, same, -, fails⟩ := looked_of_leads leads
    cases leads_nil_iff.mp ended
    rw [same]
    exact .unread fails
  | present =>
    obtain ⟨next, ended, same, -, works, there⟩ := looked_of_leads leads
    cases leads_nil_iff.mp ended
    rw [same]
    exact .present works there
  | answered =>
    obtain ⟨next, later, same, plan, works, absent⟩ := looked_of_leads leads
    obtain ⟨fails, effect⟩ := wrote_of_leads later
    rw [plan] at fails
    rw [same] at effect
    cases outcome with
    | error cause =>
      rw [show last.store = world.store from effect]
      exact .uncreated works absent fails.symm
    | ok value =>
      rw [show last.store = world.store.put identity.newResult from effect]
      exact .created works absent fails.symm

theorem done_of_writeGoes {last : AgentWorld} {devices : List DiscoveredDevice}
    {exchanges : List AgentExchange} {outcome : Outcome Unit}
    (goes : WriteGoes identity devices exchanges outcome)
    (leads : Leads AgentWorld.respond world exchanges last) :
    Done identity world (.update devices) (writes exchanges) outcome last.store := by
  cases goes with
  | unread =>
    obtain ⟨next, ended, same, -, fails⟩ := looked_of_leads leads
    cases leads_nil_iff.mp ended
    rw [same]
    exact .unread fails
  | missing =>
    obtain ⟨next, ended, same, -, works, absent⟩ := looked_of_leads leads
    cases leads_nil_iff.mp ended
    rw [same]
    exact .missing works absent
  | @answered object now =>
    obtain ⟨next, later, same, plan, works, there⟩ := looked_of_leads leads
    -- Between the reading and the writing the clock is read, which moves nothing but the clock.
    obtain ⟨-, later⟩ := leads_cons_iff.mp later
    obtain ⟨fails, effect⟩ := wrote_of_leads later
    rw [show planned? (AgentWorld.respond .clock next).2 = planned? next from rfl, plan] at fails
    rw [show (AgentWorld.respond .clock next).2.store = next.store from rfl, same] at effect
    cases outcome with
    | error cause =>
      rw [show last.store = world.store from effect]
      exact .unwritten works there fails.symm
    | ok value =>
      rw [show last.store = world.store.put (object.withDevices devices now) from effect]
      exact .written works there fails.symm

/-- **Every operation does one of these things.** -/
theorem done_run (identity : ResultIdentity) (operation : Upkeep) (world : AgentWorld) :
    Done identity world operation
      (writes (trace AgentWorld.respond (operation.program identity) world))
      (world.run (operation.program identity)).1
      (world.run (operation.program identity)).2.store := by
  have conversation :=
    conversation_trace AgentWorld.respond (operation.program identity) world
  have leads := leads_trace AgentWorld.respond (operation.program identity) world
  cases operation with
  | ensure => exact done_of_ensureGoes (ensureGoes_of_conversation conversation) leads
  | update devices => exact done_of_writeGoes (writeGoes_of_conversation conversation) leads

variable {operation : Upkeep} {asked : List Call} {outcome : Outcome Unit} {after : ResultStore}

/-- The node's result goes back to where it was got from. -/
theorem keyOf_withDevices {store : ResultStore} (filed : store.Filed) {object : ResultObject}
    (there : store.get? identity.resultKey = some object) (devices : List DiscoveredDevice)
    (now : Instant) : ResultStore.keyOf (object.withDevices devices now) = identity.resultKey :=
  filed _ object there

theorem Done.filed (done : Done identity world operation asked outcome after)
    (filed : world.store.Filed) : after.Filed := by
  cases done with
  | unread | present | uncreated | missing | unwritten => exact filed
  | created | written => exact filed.put _

/-- **An operation leaves every other object as it was.** -/
theorem Done.others (done : Done identity world operation asked outcome after)
    (filed : world.store.Filed) {key : ObjectKey} (other : key ≠ identity.resultKey) :
    after.get? key = world.store.get? key := by
  cases done with
  | unread | present | uncreated | missing | unwritten => rfl
  | created => exact ResultStore.get?_put_of_ne other
  | written _ there =>
    refine ResultStore.get?_put_of_ne ?_
    rw [keyOf_withDevices filed there]
    exact other

/-- **An operation changes nothing but the status of the node's result.** -/
theorem Done.lasting (done : Done identity world operation asked outcome after)
    (filed : world.store.Filed) {object : ResultObject}
    (there : world.store.get? identity.resultKey = some object) :
    ∃ status, after.get? identity.resultKey = some { object with status := status } := by
  cases done with
  | unread | present | uncreated | missing | unwritten => exact ⟨object.status, there⟩
  | created _ absent =>
    rw [absent] at there
    cases there
  | @written devices found now _ isFound =>
    rw [isFound] at there
    cases there
    rw [← keyOf_withDevices filed isFound devices now, ResultStore.get?_put]
    exact ⟨_, rfl⟩

/-- **An operation that fails has changed nothing.** -/
theorem Done.unchanged_of_error {cause : Error}
    (done : Done identity world operation asked (.error cause) after) : after = world.store := by
  cases done with
  | unread | uncreated | missing | unwritten => rfl

end Operations

/-! ### Any number of operations -/

/-- An operation, and the world that it meets. -/
structure Visit where
  operation : Upkeep
  /-- The world, but for the results in it. -/
  world : AgentWorld

namespace Visit

/-- The world of a visit, with the results that there are. -/
def meet (visit : Visit) (store : ResultStore) : AgentWorld :=
  { visit.world with store := store }

/-- The writes that are asked for. -/
def asked (visit : Visit) (identity : ResultIdentity) (store : ResultStore) : List Call :=
  writes (trace AgentWorld.respond (visit.operation.program identity) (visit.meet store))

/-- What the operation returns. -/
def outcome (visit : Visit) (identity : ResultIdentity) (store : ResultStore) : Outcome Unit :=
  ((visit.meet store).run (visit.operation.program identity)).1

/-- The results afterwards. -/
def after (visit : Visit) (identity : ResultIdentity) (store : ResultStore) : ResultStore :=
  ((visit.meet store).run (visit.operation.program identity)).2.store

theorem done (visit : Visit) (identity : ResultIdentity) (store : ResultStore) :
    Done identity (visit.meet store) visit.operation (visit.asked identity store)
      (visit.outcome identity store) (visit.after identity store) :=
  done_run identity visit.operation (visit.meet store)

end Visit

/-- The results after a past. -/
def storeAfter (identity : ResultIdentity) (initial : ResultStore) (past : List Visit) :
    ResultStore :=
  past.foldl (fun store visit => visit.after identity store) initial

section Runs

variable {identity : ResultIdentity} {initial : ResultStore}

theorem storeAfter_concat (past : List Visit) (visit : Visit) :
    storeAfter identity initial (past ++ [visit]) =
      visit.after identity (storeAfter identity initial past) := by
  rw [storeAfter, List.foldl_append]
  rfl

theorem storeAfter_append (early late : List Visit) :
    storeAfter identity initial (early ++ late) =
      storeAfter identity (storeAfter identity initial early) late :=
  List.foldl_append

theorem filed_storeAfter (filed : initial.Filed) (past : List Visit) :
    (storeAfter identity initial past).Filed := by
  induction past using List.reverseRecOn with
  | nil => exact filed
  | append_singleton past visit ih =>
    rw [storeAfter_concat]
    exact (visit.done identity _).filed ih

/-- **Whatever is done, every other object is as it was at the beginning.** -/
theorem others_storeAfter (filed : initial.Filed) (past : List Visit) {key : ObjectKey}
    (other : key ≠ identity.resultKey) :
    (storeAfter identity initial past).get? key = initial.get? key := by
  induction past using List.reverseRecOn with
  | nil => rfl
  | append_singleton past visit ih =>
    rw [storeAfter_concat]
    exact ((visit.done identity _).others (filed_storeAfter filed past) other).trans ih

/-- **Once the node's result exists, nothing but its status changes.** -/
theorem lasting_storeAfter (filed : initial.Filed) (past : List Visit) {object : ResultObject}
    (there : initial.get? identity.resultKey = some object) :
    ∃ status, (storeAfter identity initial past).get? identity.resultKey =
      some { object with status := status } := by
  induction past using List.reverseRecOn with
  | nil => exact ⟨object.status, there⟩
  | append_singleton past visit ih =>
    obtain ⟨status, before⟩ := ih
    rw [storeAfter_concat]
    have kept := (visit.done identity _).lasting (filed_storeAfter filed past) before
    exact kept

end Runs

/-! ### What an operation does after any past -/

/-- **Upkeep minds its own result**: what an operation does after a past. -/
structure MindsItsOwn (identity : ResultIdentity) (initial : ResultStore) (past : List Visit)
    (visit : Visit) (before after : ResultStore) : Prop where
  /-- Every other object is as it was at the beginning. -/
  others : ∀ key, key ≠ identity.resultKey → after.get? key = initial.get? key
  /-- Since the node's result first existed, nothing but its status has changed. -/
  lasting : ∀ early late object, past ++ [visit] = early ++ late →
    (storeAfter identity initial early).get? identity.resultKey = some object →
    ∃ status, after.get? identity.resultKey = some { object with status := status }
  /-- An operation that returns an error changes nothing. -/
  failed : ∀ cause, visit.outcome identity before = .error cause → after = before
  /-- An operation that cannot look for the result returns the error and writes nothing. -/
  unread : ∀ cause, planned? visit.world identity.reading = some cause →
    visit.outcome identity before = .error cause ∧ visit.asked identity before = []
  /-- A result that exists is never written by its creation, whatever it holds. -/
  present : ∀ object, visit.operation = .ensure →
    before.get? identity.resultKey = some object →
    visit.asked identity before = [] ∧ after = before ∧
      (planned? visit.world identity.reading = none → visit.outcome identity before = .ok ())
  /-- A result that does not exist is created new, and nothing else is written. -/
  created : visit.operation = .ensure → before.get? identity.resultKey = none →
    planned? visit.world identity.reading = none →
    visit.asked identity before = [.createResult identity.newResult] ∧
      (planned? visit.world (.createResult identity.newResult) = none →
        visit.outcome identity before = .ok () ∧ after = before.put identity.newResult ∧
          after.get? identity.resultKey = some identity.newResult)
  /-- Without a result nothing is updated. -/
  missing : ∀ devices, visit.operation = .update devices →
    before.get? identity.resultKey = none →
    visit.asked identity before = [] ∧
      (planned? visit.world identity.reading = none →
        visit.outcome identity before = .error identity.missingResult)
  /-- A result that exists is updated unless the update fails. -/
  updates : ∀ devices object, visit.operation = .update devices →
    before.get? identity.resultKey = some object →
    planned? visit.world identity.reading = none →
    ∃ now, visit.asked identity before = [.updateResultStatus (object.withDevices devices now)] ∧
      (planned? visit.world (.updateResultStatus (object.withDevices devices now)) = none →
        visit.outcome identity before = .ok ())
  /-- After an update that works, the result has exactly the given devices in order. -/
  updated : ∀ devices, visit.operation = .update devices →
    visit.outcome identity before = .ok () →
    ∃ object, after.get? identity.resultKey = some object ∧ object.devices? = some devices

section Cases

variable {identity : ResultIdentity} {world : AgentWorld} {asked : List Call}
  {outcome : Outcome Unit} {after : ResultStore}

theorem Done.of_failure {operation : Upkeep} {cause : Error}
    (done : Done identity world operation asked outcome after)
    (fails : planned? world identity.reading = some cause) :
    outcome = .error cause ∧ asked = [] := by
  cases done with
  | unread other =>
    rw [fails] at other
    cases other
    exact ⟨rfl, rfl⟩
  | present works | uncreated works | created works | missing works | unwritten works
  | written works =>
    rw [fails] at works
    cases works

theorem Done.of_present {object : ResultObject}
    (done : Done identity world .ensure asked outcome after)
    (there : world.store.get? identity.resultKey = some object) :
    asked = [] ∧ after = world.store ∧
      (planned? world identity.reading = none → outcome = .ok ()) := by
  cases done with
  | unread fails => exact ⟨rfl, rfl, fun works => by rw [fails] at works; cases works⟩
  | present => exact ⟨rfl, rfl, fun _ => rfl⟩
  | uncreated _ absent | created _ absent =>
    rw [absent] at there
    cases there

theorem Done.of_absent (done : Done identity world .ensure asked outcome after)
    (absent : world.store.get? identity.resultKey = none)
    (works : planned? world identity.reading = none) :
    asked = [.createResult identity.newResult] ∧
      (planned? world (.createResult identity.newResult) = none →
        outcome = .ok () ∧ after = world.store.put identity.newResult ∧
          after.get? identity.resultKey = some identity.newResult) := by
  cases done with
  | unread fails =>
    rw [fails] at works
    cases works
  | present _ there =>
    rw [absent] at there
    cases there
  | uncreated _ _ fails => exact ⟨rfl, fun creates => by rw [fails] at creates; cases creates⟩
  | created => exact ⟨rfl, fun _ => ⟨rfl, rfl, ResultStore.get?_put _ _⟩⟩

theorem Done.of_missing {devices : List DiscoveredDevice}
    (done : Done identity world (.update devices) asked outcome after)
    (absent : world.store.get? identity.resultKey = none) :
    asked = [] ∧
      (planned? world identity.reading = none → outcome = .error identity.missingResult) := by
  cases done with
  | unread fails => exact ⟨rfl, fun works => by rw [fails] at works; cases works⟩
  | missing => exact ⟨rfl, fun _ => rfl⟩
  | unwritten _ there | written _ there =>
    rw [absent] at there
    cases there

theorem Done.of_there {devices : List DiscoveredDevice} {object : ResultObject}
    (done : Done identity world (.update devices) asked outcome after)
    (there : world.store.get? identity.resultKey = some object)
    (works : planned? world identity.reading = none) :
    ∃ now, asked = [.updateResultStatus (object.withDevices devices now)] ∧
      (planned? world (.updateResultStatus (object.withDevices devices now)) = none →
        outcome = .ok ()) := by
  cases done with
  | unread fails =>
    rw [fails] at works
    cases works
  | missing _ absent =>
    rw [absent] at there
    cases there
  | @unwritten _ found now _ _ isFound fails =>
    rw [isFound] at there
    cases there
    exact ⟨now, rfl, fun writes => by rw [fails] at writes; cases writes⟩
  | @written _ found now _ isFound =>
    rw [isFound] at there
    cases there
    exact ⟨now, rfl, fun _ => rfl⟩

theorem Done.devices_of_ok {devices : List DiscoveredDevice} (filed : world.store.Filed)
    (done : Done identity world (.update devices) asked (.ok ()) after) :
    ∃ object, after.get? identity.resultKey = some object ∧ object.devices? = some devices := by
  cases done with
  | @written _ found now _ there =>
    rw [← keyOf_withDevices filed there devices now]
    exact ⟨_, ResultStore.get?_put _ _, rfl⟩

end Cases

/-- **Upkeep minds its own result**, after any past over any store that has every object under its
own key. -/
theorem upkeep_minds_its_own (identity : ResultIdentity) (initial : ResultStore)
    (filed : initial.Filed) (past : List Visit) (visit : Visit) :
    MindsItsOwn identity initial past visit (storeAfter identity initial past)
      (storeAfter identity initial (past ++ [visit])) := by
  have filedBefore : (storeAfter identity initial past).Filed := filed_storeAfter filed past
  have done := visit.done identity (storeAfter identity initial past)
  constructor
  case others => exact fun key other => others_storeAfter filed (past ++ [visit]) other
  case lasting =>
    intro early late object split there
    rw [split, storeAfter_append]
    exact lasting_storeAfter (filed_storeAfter filed early) late there
  case failed =>
    intro cause failed
    rw [failed] at done
    rw [storeAfter_concat]
    exact done.unchanged_of_error
  case unread => exact fun cause fails => done.of_failure fails
  case present =>
    intro object ensures there
    rw [ensures] at done
    rw [storeAfter_concat]
    exact done.of_present there
  case created =>
    intro ensures absent works
    rw [ensures] at done
    rw [storeAfter_concat]
    exact done.of_absent absent works
  case missing =>
    intro devices updates absent
    rw [updates] at done
    exact done.of_missing absent
  case updates =>
    intro devices object updates there works
    rw [updates] at done
    exact done.of_there there works
  case updated =>
    intro devices updates worked
    rw [updates, worked] at done
    rw [storeAfter_concat]
    exact done.devices_of_ok filedBefore

/-- Beside a neighbour's result, the first creation is refused, the second one works, and then an
update does. -/
theorem upkeep_after_refusal :
    let identity : ResultIdentity := ⟨"node-1", "storage", "auto-discover-devices", "1"⟩
    let neighbour : ResultIdentity := ⟨"node-2", "storage", "auto-discover-devices", "1"⟩
    let initial := ResultStore.empty.put neighbour.newResult
    let world := AgentWorld.new default
    let past : List Visit :=
      [⟨.ensure, { world with failures := [("create", .configuration "refused")] }⟩,
        ⟨.ensure, world⟩]
    let visit : Visit := ⟨.update [], world⟩
    MindsItsOwn identity initial past visit (storeAfter identity initial past)
        (storeAfter identity initial (past ++ [visit])) ∧
      visit.outcome identity (storeAfter identity initial past) = .ok () :=
  ⟨upkeep_minds_its_own _ _ (ResultStore.filed_empty.put _) _ _, by decide +kernel⟩

end NodeStorage.Discovery
