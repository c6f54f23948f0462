/-
**Result objects in an agent's world.**

A store gives back what was put into it (`get?_put`), and an object that is put in changes nothing
for the others (`get?_put_of_ne`). In an agent's world, whatever fails there and whatever happens
there meanwhile, the store changes only when a call creates or updates an object and is told that it
worked.

* `AgentWorld.store_of_quiet` — calls that are about something else leave the store as it is.
* `AgentWorld.store_of_unwritten`, `AgentWorld.store_of_written` — the agent's writing leaves the
  store as it is, or it puts the object that it got there, with the new devices in its status.
-/

import NodeStorage.InMemory.AgentWorld
import NodeStorage.Proofs.Discovery.Scan

namespace NodeStorage.InMemory

open Discovery Dialogue

namespace ResultStore

variable {store : ResultStore} {key : ObjectKey} {object : ResultObject}

/-! ### Putting and getting -/

theorem find?_putSorted_self (entries : List (ObjectKey × ResultObject)) :
    (putSorted key object entries).find? (fun entry => entry.1 == key) = some (key, object) := by
  induction entries with
  | nil => simp [putSorted]
  | cons entry rest ih =>
    rw [putSorted]
    split
    · simp
    · rename_i other
      split
      · simp
      · rw [List.find?_cons_of_neg (by simpa using other), ih]

theorem find?_putSorted_of_ne {other : ObjectKey} (differs : other ≠ key)
    (entries : List (ObjectKey × ResultObject)) :
    (putSorted key object entries).find? (fun entry => entry.1 == other) =
      entries.find? fun entry => entry.1 == other := by
  have skipped : (key == other) = false := by simpa using differs.symm
  induction entries with
  | nil => simp only [putSorted, List.find?_cons, skipped]
  | cons entry rest ih =>
    rw [putSorted]
    split
    · rename_i same
      simp only [List.find?_cons, same, skipped]
    · split
      · simp only [List.find?_cons, skipped]
      · rw [List.find?_cons, List.find?_cons, ih]

/-- **What was put in is there.** -/
theorem get?_put (store : ResultStore) (object : ResultObject) :
    (store.put object).get? (keyOf object) = some object := by
  rw [get?, put, find?_putSorted_self]
  rfl

/-- **Everything else is as it was.** -/
theorem get?_put_of_ne (differs : key ≠ keyOf object) :
    (store.put object).get? key = store.get? key := by
  rw [get?, put, find?_putSorted_of_ne differs, get?]

/-- Every object is kept under its own key. -/
def Filed (store : ResultStore) : Prop :=
  ∀ key object, store.get? key = some object → keyOf object = key

theorem filed_empty : Filed .empty := by
  intro key object found
  cases found

theorem Filed.put (filed : store.Filed) (object : ResultObject) : (store.put object).Filed := by
  intro key found there
  by_cases same : key = keyOf object
  · rw [same, get?_put] at there
    cases there
    exact same.symm
  · rw [get?_put_of_ne same] at there
    exact filed key found there

/-- A store that was filled object by object has each under its own key. -/
theorem filed_foldl_put (objects : List ResultObject) (filed : store.Filed) :
    (objects.foldl ResultStore.put store).Filed := by
  induction objects generalizing store with
  | nil => exact filed
  | cons object objects ih => exact ih (filed.put object)

end ResultStore

namespace AgentWorld

/-! ### What does not concern the store -/

theorem kept_happen (world : AgentWorld) (time : Nat) (event : NodeEvent) :
    (world.happen time event).store = world.store ∧
      (world.happen time event).probe = world.probe := by
  cases event <;> exact ⟨rfl, rfl⟩

theorem kept_passUntil (deadline : Nat) (world : AgentWorld) (course : List (Nat × NodeEvent)) :
    (passUntil deadline world course).store = world.store ∧
      (passUntil deadline world course).probe = world.probe := by
  induction course generalizing world with
  | nil => exact ⟨rfl, rfl⟩
  | cons next rest ih =>
    rw [passUntil]
    split
    · obtain ⟨store, probe⟩ := kept_happen world next.1 next.2
      rw [← store, ← probe]
      exact ih _
    · exact ⟨rfl, rfl⟩

/-- Whatever happens during a listing, store and probe stay the same. -/
theorem kept_list (world : AgentWorld) :
    world.list.2.store = world.store ∧ world.list.2.probe = world.probe := by
  rw [list]
  split
  · exact ⟨rfl, rfl⟩
  · rename_i listing rest _
    cases listing.delay <;> cases listing.devices <;>
      first | exact ⟨rfl, rfl⟩ | exact kept_passUntil _ _ _

/-- A world lists what it has been prepared for. -/
theorem list_fst (world : AgentWorld) :
    world.list.1 =
      match world.listings with
      | [] => .ok world.lastListed
      | listing :: _ => listing.devices := by
  rw [list]
  cases world.listings with
  | nil => rfl
  | cons listing rest =>
    obtain ⟨devices, delay⟩ := listing
    cases devices <;> rfl

theorem store_awake {world after : AgentWorld} {withSignals : Bool} {wake : Wake}
    (awake : world.awake? withSignals = some (wake, after)) : after.store = world.store := by
  rw [awake?] at awake
  split at awake
  · cases awake
    rfl
  · split at awake
    · cases awake
      rfl
    · split at awake
      · cases awake
        rfl
      · cases awake

theorem store_waitUntil (deadline : Nat) (withSignals : Bool) (world : AgentWorld)
    (course : List (Nat × NodeEvent)) :
    (waitUntil deadline withSignals world course).2.store = world.store := by
  induction course generalizing world with
  | nil =>
    rw [waitUntil]
    split
    · rename_i awake
      exact (store_awake awake :)
    · rfl
  | cons next rest ih =>
    rw [waitUntil]
    split
    · rename_i awake
      exact (store_awake awake :)
    · split
      · rw [ih, (kept_happen world next.1 next.2).1]
      · rfl

/-- The log is beside the store. -/
theorem store_respond (call : Call) (world : AgentWorld) :
    (respond call world).2.store = (answer call world).2.store := by
  show (if isLogged call then _ else _ : AgentWorld).store = _
  split <;> rfl

/-- **Calls that are about something else leave the store as it is.** -/
theorem store_of_not_storeCall {call : Call} (other : call.isStoreCall = false)
    (world : AgentWorld) : (respond call world).2.store = world.store := by
  rw [store_respond]
  cases call with
  | listDevices => exact (kept_list world).1
  | examine | clock => rfl
  | getResult | createResult | updateResultStatus => cases other
  | publish event =>
    rw [answer, Failures.guard]
    split <;> rfl
  | wait milliseconds withSignals => exact store_waitUntil _ _ _ _

theorem store_of_quiet {world last : AgentWorld} {exchanges : List AgentExchange}
    (quiet : Quiet exchanges) (leads : Leads respond world exchanges last) :
    last.store = world.store := by
  induction leads with
  | stay world => rfl
  | step call leads ih =>
    obtain ⟨other, quiet⟩ := quiet_cons_iff.mp quiet
    exact (ih quiet).trans (store_of_not_storeCall other _)

/-! ### What does -/

/-- **What a call does to the store**, by the answer it got: reading shows what is there, writing
that worked puts the object in, and nothing else changes anything. -/
def Effect (call : Call) (answer : call.Answer) (before after : ResultStore) : Prop :=
  match call, answer with
  | .getResult namespaceName name, .ok found =>
    found = before.get? (namespaceName, name) ∧ after = before
  | .createResult object, .ok () => after = before.put object
  | .updateResultStatus object, .ok () => after = before.put object
  | _, _ => after = before

/-- **Every call has the effect that its answer says.** -/
theorem effect_respond (call : Call) (world : AgentWorld) :
    Effect call (respond call world).1 world.store (respond call world).2.store := by
  cases call with
  | listDevices | examine | publish | clock | wait => exact store_of_not_storeCall rfl world
  | getResult namespaceName name =>
    rw [store_respond]
    show Effect _ (answer _ world).1 _ _
    rw [answer, Failures.guard]
    cases world.failures.of? "get" name with
    | some cause => exact rfl
    | none => exact ⟨rfl, rfl⟩
  | createResult object =>
    rw [store_respond]
    show Effect _ (answer _ world).1 _ _
    rw [answer, Failures.guard]
    cases world.failures.of? "create" object.metadata.anyName with
    | some cause => exact rfl
    | none => exact rfl
  | updateResultStatus object =>
    rw [store_respond]
    show Effect _ (answer _ world).1 _ _
    rw [answer, Failures.guard]
    cases world.failures.of? "update" object.metadata.anyName with
    | some cause => exact rfl
    | none => exact rfl

theorem effect_of_leads {world last : AgentWorld} {call : Call} {answer : call.Answer}
    {later : List AgentExchange} (leads : Leads respond world (⟨call, answer⟩ :: later) last) :
    ∃ next, Effect call answer world.store next.store ∧ Leads respond next later last := by
  obtain ⟨rfl, later⟩ := leads_cons_iff.mp leads
  exact ⟨_, effect_respond call world, later⟩

/-- A list of devices that could not be written leaves the store as it is. -/
theorem store_of_unwritten {identity : ResultIdentity} {devices : List DiscoveredDevice}
    {writing : List AgentExchange} {cause : Error} {world last : AgentWorld}
    (goes : WriteGoes identity devices writing (.error cause))
    (leads : Leads respond world writing last) : last.store = world.store := by
  cases goes with
  | unread =>
    obtain ⟨got, read, ended⟩ := effect_of_leads leads
    cases leads_nil_iff.mp ended
    exact read
  | missing =>
    obtain ⟨got, ⟨-, read⟩, ended⟩ := effect_of_leads leads
    cases leads_nil_iff.mp ended
    exact read
  | answered =>
    obtain ⟨got, ⟨-, read⟩, later⟩ := effect_of_leads leads
    obtain ⟨timed, unchanged, later⟩ := effect_of_leads later
    obtain ⟨refused, stays, ended⟩ := effect_of_leads later
    cases leads_nil_iff.mp ended
    exact (stays.trans unchanged).trans read

/-- **A list of devices that was written stands in the object that was there before.** -/
theorem store_of_written {identity : ResultIdentity} {devices : List DiscoveredDevice}
    {writing : List AgentExchange} {world last : AgentWorld}
    (goes : WriteGoes identity devices writing (.ok ()))
    (leads : Leads respond world writing last) :
    ∃ object now, world.store.get? (identity.namespaceName, identity.resultName) = some object ∧
      last.store = world.store.put (object.withDevices devices now) ∧
      updates writing = [object.withDevices devices now] := by
  cases goes with
  | @answered object now =>
    obtain ⟨got, ⟨found, read⟩, later⟩ := effect_of_leads leads
    obtain ⟨timed, unchanged, later⟩ := effect_of_leads later
    obtain ⟨updated, written, ended⟩ := effect_of_leads later
    cases leads_nil_iff.mp ended
    have before : timed.store = world.store := unchanged.trans read
    exact ⟨object, now, found.symm, by rw [← before]; exact written, rfl⟩

end AgentWorld

end NodeStorage.InMemory
