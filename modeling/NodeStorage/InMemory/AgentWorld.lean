/-
**A node for an agent, in memory.**

The node has listings of its devices that are used up one after another, result objects, a channel
for one signal, and a course of events with their times in milliseconds. Time passes only while the
agent waits or a listing takes its time; events that fall into such a span happen in it.

What the agent asks and what happens is written into a log with the time of each entry.
-/

import NodeStorage.Discovery.Agent
import NodeStorage.InMemory.Failures
import NodeStorage.InMemory.ResultStore

namespace NodeStorage.InMemory

open Discovery

/-- A listing of devices, and how many milliseconds it takes. -/
structure Listing where
  devices : Outcome (List BlockDevice)
  delay : Option Nat

/-- Something that happens on the node. -/
inductive NodeEvent where
  /-- Somebody tries to put a signal into the channel. -/
  | signal
  /-- The channel is closed. -/
  | closeSignals
  /-- Other calls fail from now on. -/
  | fail (failures : Failures)
  /-- The agent is told to stop. -/
  | stop
  deriving DecidableEq, Repr

/-- An entry of the log. -/
inductive AgentEntry where
  | call (exchange : Dialogue.Exchange Call Call.Answer)
  | listingBegins
  | signalSent (accepted : Bool)

/-- A node with all that an agent can ask. -/
structure AgentWorld where
  now : Nat
  /-- What is still to happen, in order. -/
  course : List (Nat × NodeEvent)
  /-- A signal is in the channel. -/
  waiting : Bool
  /-- The channel is open. -/
  isOpen : Bool
  /-- The agent has been told to stop. -/
  stopped : Bool
  listings : List Listing
  /-- The last listing that worked. -/
  lastListed : List BlockDevice
  probe : DeviceProbe
  store : ResultStore
  failures : Failures
  clock : Clock
  /-- The log, the last entry first. -/
  log : List (Nat × AgentEntry)

namespace AgentWorld

/-- A world at the start of its time. -/
def new (clock : Clock) : AgentWorld where
  now := 0
  course := []
  waiting := false
  isOpen := true
  stopped := false
  listings := []
  lastListed := []
  probe := ⟨fun device => .error (device.probeError ""), fun _ => .ok true, fun _ => .ok none⟩
  store := .empty
  failures := []
  clock := clock
  log := []

/-- Writes an entry into the log. -/
def note (world : AgentWorld) (entry : AgentEntry) : AgentWorld :=
  { world with log := (world.now, entry) :: world.log }

/-- Something happens. -/
def happen (world : AgentWorld) (time : Nat) (event : NodeEvent) : AgentWorld :=
  let world := { world with now := max world.now time }
  match event with
  | .signal =>
    let accepted := world.isOpen && !world.waiting
    { world with waiting := world.waiting || accepted }.note (.signalSent accepted)
  | .closeSignals => { world with isOpen := false }
  | .fail failures => { world with failures := failures }
  | .stop => { world with stopped := true }

/-- Time passes until `deadline`; `course` is what is still to happen. -/
def passUntil (deadline : Nat) (world : AgentWorld) : List (Nat × NodeEvent) → AgentWorld
  | [] => { world with now := max world.now deadline, course := [] }
  | (time, event) :: rest =>
    if time ≤ deadline then passUntil deadline (world.happen time event) rest
    else { world with now := max world.now deadline, course := (time, event) :: rest }

/-- What has already happened that ends a wait, and the world afterwards. -/
def awake? (world : AgentWorld) (withSignals : Bool) : Option (Wake × AgentWorld) :=
  if world.stopped then some (.stop, world)
  else if withSignals && world.waiting then some (.signal, { world with waiting := false })
  else if withSignals && !world.isOpen then some (.closed, world)
  else none

/-- Waits until something ends the wait, at the latest until `deadline`; `course` is what is still
to happen. -/
def waitUntil (deadline : Nat) (withSignals : Bool) (world : AgentWorld) :
    List (Nat × NodeEvent) → Wake × AgentWorld
  | [] =>
    match world.awake? withSignals with
    | some (wake, after) => (wake, { after with course := [] })
    | none => (.interval, { world with now := max world.now deadline, course := [] })
  | (time, event) :: rest =>
    match world.awake? withSignals with
    | some (wake, after) => (wake, { after with course := (time, event) :: rest })
    | none =>
      if time ≤ deadline then waitUntil deadline withSignals (world.happen time event) rest
      else
        (.interval, { world with now := max world.now deadline, course := (time, event) :: rest })

/-- The next listing: the first that has not been used, or the last one that worked. -/
def list (world : AgentWorld) : Outcome (List BlockDevice) × AgentWorld :=
  match world.listings with
  | [] => (.ok world.lastListed, world)
  | listing :: rest =>
    let world := { world with listings := rest }
    let world := match listing.delay with
      | none => world
      | some delay =>
        let begun := world.note .listingBegins
        begun.passUntil (begun.now + delay) begun.course
    match listing.devices with
    | .ok devices => (.ok devices, { world with lastListed := devices })
    | .error cause => (.error cause, world)

/-- Answers a question of the agent, without the log. -/
def answer : (call : Call) → AgentWorld → call.Answer × AgentWorld
  | .listDevices, world => world.list
  | .examine, world => (world.probe, world)
  | .getResult namespaceName name, world =>
    world.failures.guard "get" name world fun world =>
      (.ok (world.store.get? (namespaceName, name)), world)
  | .createResult object, world =>
    world.failures.guard "create" object.metadata.anyName world fun world =>
      (.ok (), { world with store := world.store.put object })
  | .updateResultStatus object, world =>
    world.failures.guard "update" object.metadata.anyName world fun world =>
      (.ok (), { world with store := world.store.put object })
  | .publish event, world =>
    world.failures.guard "publish" event.reason.name world fun world => (.ok (), world)
  | .clock, world =>
    let (instant, clock) := world.clock.read
    (instant, { world with clock := clock })
  | .wait milliseconds withSignals, world =>
    waitUntil (world.now + milliseconds) withSignals world world.course

/-- The question is one that the log shows. -/
def isLogged : Call → Bool
  | .examine | .clock | .wait _ _ => false
  | .listDevices | .getResult _ _ | .createResult _ | .updateResultStatus _ | .publish _ => true

/-- Answers a question of the agent and logs it. -/
def respond (call : Call) (world : AgentWorld) : call.Answer × AgentWorld :=
  let (reply, after) := answer call world
  (reply, if isLogged call then after.note (.call ⟨call, reply⟩) else after)

/-- Runs a program in the world. -/
def run {Result : Type} (program : AgentDialogue Result) (world : AgentWorld) :
    Result × AgentWorld :=
  Dialogue.run respond program world

/-- The log in the order of its entries, and the world with an empty one. -/
def takeLog (world : AgentWorld) : List (Nat × AgentEntry) × AgentWorld :=
  (world.log.reverse, { world with log := [] })

/-- Enough rounds of an agent's loop to get to the end of the course. -/
def roundsFor (world : AgentWorld) (interval : Nat) : Nat :=
  let last := (world.course.getLast?.map Prod.fst).getD 0
  last / (max interval 1) + 2 * world.course.length + 3

end AgentWorld

end NodeStorage.InMemory
