/-
**News is told once.**

Any number of calls share one reporter. A call enters: it looks its key up among the reported ones
and puts it there, both at once. Then it publishes its event if the key was not there. Between the
two, other calls enter and publish, in any order, and publishing may fail. Still the first call that
has entered with a key is the only one that publishes.

* `DiskEvent.key_eq_iff` — two events have one key exactly if they have the same reason, type and
  disk.
* `Reporter.Calls`, `Calls.Reachable` — what calls have come to, and how they come there.
* `Calls.Kept` — what every step preserves: the keys that are reported are those of the calls that
  have entered, and each of these is where it must be (`kept_of_reachable`).
* `Reporter.questions_reportEach` — calls one after another publish the first event of each key.
-/

import Mathlib.Data.Finset.Card
import Mathlib.Logic.Function.Basic
import NodeStorage.Proofs.Dialogue.Steps
import NodeStorage.Proofs.Discovery.Loop

namespace NodeStorage.Discovery

open Dialogue

/-! ### Keys -/

theorem EventReason.colon_notMem_name (reason : EventReason) : ':' ∉ reason.name.toList := by
  cases reason <;> decide

theorem EventType.colon_notMem_name (eventType : EventType) : ':' ∉ eventType.name.toList := by
  cases eventType <;> decide

theorem EventReason.name_injective : Function.Injective EventReason.name := by
  intro first second same
  cases first <;> cases second <;> first | rfl | exact absurd same (by decide)

theorem EventType.name_injective : Function.Injective EventType.name := by
  intro first second same
  cases first <;> cases second <;> first | rfl | exact absurd same (by decide)

/-- Two texts with a mark in them are the same when they are so up to their first marks and after
them. -/
theorem append_mark_inj {α : Type} {mark : α} {first second firstRest secondRest : List α}
    (firstPlain : mark ∉ first) (secondPlain : mark ∉ second) :
    first ++ mark :: firstRest = second ++ mark :: secondRest ↔
      first = second ∧ firstRest = secondRest := by
  refine ⟨fun same => ?_, fun ⟨front, back⟩ => by rw [front, back]⟩
  induction first generalizing second with
  | nil =>
    cases second with
    | nil => exact ⟨rfl, (List.cons.inj same).2⟩
    | cons c second =>
      obtain ⟨rfl, -⟩ := List.cons.inj same
      exact absurd List.mem_cons_self secondPlain
  | cons c first ih =>
    cases second with
    | nil =>
      obtain ⟨rfl, -⟩ := List.cons.inj same
      exact absurd List.mem_cons_self firstPlain
    | cons d second =>
      obtain ⟨rfl, later⟩ := List.cons.inj same
      obtain ⟨rfl, back⟩ := ih (fun member => firstPlain (List.mem_cons_of_mem _ member))
        (fun member => secondPlain (List.mem_cons_of_mem _ member)) later
      exact ⟨rfl, back⟩

namespace DiskEvent

theorem toList_key (event : DiskEvent) :
    event.key.toList =
      event.reason.name.toList ++
        ':' :: (event.eventType.name.toList ++ ':' :: event.disk.toList) := by
  simp [key, String.join_cons]

/-- **The key tells reason, type and disk**, whatever characters the disk has. -/
theorem key_eq_iff {first second : DiskEvent} :
    first.key = second.key ↔
      first.reason = second.reason ∧ first.eventType = second.eventType ∧
        first.disk = second.disk := by
  -- No name has a colon, so the first two colons of a key are those that part it.
  rw [← String.toList_inj, toList_key, toList_key,
    append_mark_inj first.reason.colon_notMem_name second.reason.colon_notMem_name,
    append_mark_inj first.eventType.colon_notMem_name second.eventType.colon_notMem_name]
  simp only [String.toList_inj, EventReason.name_injective.eq_iff, EventType.name_injective.eq_iff]

/-- The event with the name of its node before the message, if there is a name. -/
def signed (nodeName : Option String) (event : DiskEvent) : DiskEvent :=
  match nodeName with
  | none => event
  | some name =>
    if name = "" then event else { event with message := name ++ " - " ++ event.message }

end DiskEvent

namespace Reporter

theorem addressed_of_nodeName {nodeName : Option String} {reporter : Reporter}
    (named : reporter.nodeName = nodeName.getD "") (event : DiskEvent) :
    reporter.addressed event = event.signed nodeName := by
  rw [addressed, named]
  cases nodeName with
  | none => rfl
  | some name =>
    by_cases empty : name = ""
    · simp [DiskEvent.signed, empty]
    · simp [DiskEvent.signed, empty, String.join_cons, String.append_assoc]

section Consider

variable {reporter : Reporter} {event : DiskEvent}

theorem consider_of_mem (known : event.key ∈ reporter.reported) :
    reporter.consider event = (none, reporter) :=
  if_pos (List.contains_iff_mem.mpr known)

theorem consider_of_notMem (fresh : event.key ∉ reporter.reported) :
    reporter.consider event =
      (some (reporter.addressed event),
        { reporter with reported := event.key :: reporter.reported }) :=
  if_neg (mt List.contains_iff_mem.mp fresh)

theorem nodeName_consider : (reporter.consider event).2.nodeName = reporter.nodeName := by
  by_cases known : event.key ∈ reporter.reported
  · rw [consider_of_mem known]
  · rw [consider_of_notMem known]

/-- An event leaves its key among the reported ones. -/
theorem mem_reported_consider {key : String} :
    key ∈ (reporter.consider event).2.reported ↔ key ∈ reporter.reported ∨ event.key = key := by
  by_cases known : event.key ∈ reporter.reported
  · rw [consider_of_mem known]
    exact (or_iff_left_of_imp fun same => same ▸ known).symm
  · rw [consider_of_notMem known, List.mem_cons, or_comm, eq_comm]

/-- No key comes in twice. -/
theorem nodup_reported_consider (distinct : reporter.reported.Nodup) :
    (reporter.consider event).2.reported.Nodup := by
  by_cases known : event.key ∈ reporter.reported
  · rwa [consider_of_mem known]
  · rw [consider_of_notMem known]
    exact List.nodup_cons.mpr ⟨known, distinct⟩

theorem report_of_mem (known : event.key ∈ reporter.reported) :
    reporter.report event = .done (false, reporter) := by
  rw [report, consider_of_mem known]
  rfl

theorem report_of_notMem (fresh : event.key ∉ reporter.reported) :
    reporter.report event =
      .ask (.publish (reporter.addressed event)) fun _ =>
        .done (true, (reporter.consider event).2) := by
  rw [report, consider_of_notMem fresh]
  rfl

end Consider

end Reporter

/-! ### Calls at the same time -/

namespace Reporter

/-- What calls of one reporter have come to. -/
structure Calls {Caller : Type} (events : Caller → DiskEvent) where
  /-- What the calls share. -/
  reporter : Reporter
  /-- The calls that have entered, in order. -/
  entered : List Caller
  /-- What is left of a call that has entered. -/
  left : Caller → Option (AgentDialogue (Bool × Reporter))
  /-- What was said so far, with the call that said it. -/
  history : List (Caller × AgentExchange)

namespace Calls

variable {Caller : Type} {events : Caller → DiskEvent}

/-- Nobody has called yet. -/
def start (events : Caller → DiskEvent) (reporter : Reporter) : Calls events :=
  ⟨reporter, [], fun _ => none, []⟩

/-- The call has returned; it says whether its event was new. -/
def Returned (calls : Calls events) (caller : Caller) (isNew : Bool) : Prop :=
  ∃ after, calls.left caller = some (.done (isNew, after))

/-- The first call that has entered with a key. -/
def teller? (calls : Calls events) (key : String) : Option Caller :=
  calls.entered.find? fun caller => (events caller).key == key

theorem Returned.unique {calls : Calls events} {caller : Caller} {first second : Bool}
    (one : calls.Returned caller first) (two : calls.Returned caller second) : first = second := by
  obtain ⟨after, left⟩ := one
  obtain ⟨other, also⟩ := two
  rw [left] at also
  cases also
  rfl

theorem teller?_eq_none_iff {calls : Calls events} {key : String} :
    calls.teller? key = none ↔ ∀ caller ∈ calls.entered, (events caller).key ≠ key := by
  simp [teller?]

variable [DecidableEq Caller]

/-- What a call has said. -/
def saidBy (calls : Calls events) (caller : Caller) : List AgentExchange :=
  (calls.history.filter fun entry => entry.1 = caller).map Prod.snd

/-- A call enters: it takes the reporter as it is and leaves it as it must be for the next. -/
def enter (calls : Calls events) (caller : Caller) : Calls events where
  reporter := (calls.reporter.consider (events caller)).2
  entered := calls.entered ++ [caller]
  left := Function.update calls.left caller (some (calls.reporter.report (events caller)))
  history := calls.history

/-- A call goes on by an exchange. -/
def goOn (calls : Calls events) (caller : Caller) (exchange : AgentExchange)
    (rest : AgentDialogue (Bool × Reporter)) : Calls events where
  reporter := calls.reporter
  entered := calls.entered
  left := Function.update calls.left caller (some rest)
  history := calls.history ++ [(caller, exchange)]

/-- **What calls can come to**: one after another enters or goes on, in any order, whatever it is
answered. -/
inductive Reachable (events : Caller → DiskEvent) (initial : Reporter) : Calls events → Prop
  | start : Reachable events initial (Calls.start events initial)
  | enter {calls : Calls events} (caller : Caller) :
      Reachable events initial calls → calls.left caller = none →
      Reachable events initial (calls.enter caller)
  | goOn {calls : Calls events} (caller : Caller) {before rest : AgentDialogue (Bool × Reporter)}
      {exchange : AgentExchange} :
      Reachable events initial calls → calls.left caller = some before →
      Step before exchange rest → Reachable events initial (calls.goOn caller exchange rest)

/-! ### What every step preserves -/

/-- How far a call is that must publish its event: it is about to, or has. -/
inductive Publishes (event : DiskEvent) :
    Option (AgentDialogue (Bool × Reporter)) → List AgentExchange → Prop
  | about (after : Reporter) :
      Publishes event (some (.ask (.publish event) fun _ => .done (true, after))) []
  | done (after : Reporter) (answer : Outcome Unit) :
      Publishes event (some (.done (true, after))) [⟨.publish event, answer⟩]

/-- **The keys that are reported are those of the calls that have entered**, and each of these is
where it must be. -/
structure Kept (nodeName : Option String) (calls : Calls events) : Prop where
  named : calls.reporter.nodeName = nodeName.getD ""
  /-- The reported keys are those of the calls that have entered. -/
  reported : ∀ key, key ∈ calls.reporter.reported ↔
    ∃ caller ∈ calls.entered, (events caller).key = key
  /-- No key is reported twice. -/
  distinct : calls.reporter.reported.Nodup
  /-- Who has not entered has done nothing. -/
  outside : ∀ caller ∉ calls.entered, calls.left caller = none ∧ calls.saidBy caller = []
  /-- Who has entered first with a key publishes. -/
  teller : ∀ caller, calls.teller? (events caller).key = some caller →
    Publishes ((events caller).signed nodeName) (calls.left caller) (calls.saidBy caller)
  /-- Who has entered later returns at once. -/
  late : ∀ caller ∈ calls.entered, calls.teller? (events caller).key ≠ some caller →
    calls.Returned caller false ∧ calls.saidBy caller = []

section Steps

variable {nodeName : Option String} {calls : Calls events} {caller other : Caller}

theorem kept_start (nodeName : Option String) :
    Kept nodeName (Calls.start events (Reporter.new nodeName)) where
  named := rfl
  reported key := by simp [Calls.start, Reporter.new]
  distinct := List.nodup_nil
  outside caller _ := ⟨rfl, rfl⟩
  teller caller first := by cases first
  late caller member := by cases member

theorem left_enter_self :
    (calls.enter caller).left caller = some (calls.reporter.report (events caller)) :=
  Function.update_self ..

theorem left_enter_of_ne (differs : other ≠ caller) :
    (calls.enter caller).left other = calls.left other :=
  Function.update_of_ne differs ..

theorem left_goOn_self {exchange : AgentExchange} {rest : AgentDialogue (Bool × Reporter)} :
    (calls.goOn caller exchange rest).left caller = some rest :=
  Function.update_self ..

theorem left_goOn_of_ne {exchange : AgentExchange} {rest : AgentDialogue (Bool × Reporter)}
    (differs : other ≠ caller) :
    (calls.goOn caller exchange rest).left other = calls.left other :=
  Function.update_of_ne differs ..

theorem saidBy_goOn_self {exchange : AgentExchange} {rest : AgentDialogue (Bool × Reporter)} :
    (calls.goOn caller exchange rest).saidBy caller = calls.saidBy caller ++ [exchange] := by
  have own : [(caller, exchange)].filter (fun entry => entry.1 = caller) = [(caller, exchange)] :=
    List.filter_cons_of_pos (decide_eq_true rfl)
  rw [saidBy, goOn, List.filter_append, List.map_append, own]
  rfl

theorem saidBy_goOn_of_ne {exchange : AgentExchange} {rest : AgentDialogue (Bool × Reporter)}
    (differs : other ≠ caller) :
    (calls.goOn caller exchange rest).saidBy other = calls.saidBy other := by
  have foreign : [(caller, exchange)].filter (fun entry => entry.1 = other) = [] :=
    List.filter_cons_of_neg (by simpa using differs.symm)
  rw [saidBy, goOn, List.filter_append, List.map_append, foreign]
  exact List.append_nil _

/-- The first with a key stays the first; who enters is the first if there was none. -/
theorem teller?_enter (key : String) :
    (calls.enter caller).teller? key =
      (calls.teller? key).or (if (events caller).key = key then some caller else none) := by
  rw [teller?, enter, List.find?_append, teller?]
  by_cases same : (events caller).key = key <;> simp [same]

/-- A call of which nothing is left to see has not entered. -/
theorem Kept.notMem_of_left (kept : Kept nodeName calls) (waits : calls.left caller = none) :
    caller ∉ calls.entered := by
  intro member
  by_cases first : calls.teller? (events caller).key = some caller
  · have publishes := kept.teller caller first
    rw [waits] at publishes
    cases publishes
  · obtain ⟨⟨after, returned⟩, -⟩ := kept.late caller member first
    rw [waits] at returned
    cases returned

/-- A key is among the reported ones if a call has entered with it. -/
theorem Kept.mem_reported_iff (kept : Kept nodeName calls) {key : String} :
    key ∈ calls.reporter.reported ↔ calls.teller? key ≠ none := by
  rw [kept.reported, ne_eq, teller?_eq_none_iff]
  push Not
  rfl

/-- Who enters takes the place of the first only if no call has entered with its key. -/
theorem Kept.teller?_enter_self (kept : Kept nodeName calls)
    (outside : caller ∉ calls.entered) :
    (calls.enter caller).teller? (events caller).key = some caller ↔
      (events caller).key ∉ calls.reporter.reported := by
  rw [teller?_enter, if_pos rfl, kept.mem_reported_iff, not_not]
  cases first : calls.teller? (events caller).key with
  | none => exact iff_of_true rfl rfl
  | some found =>
    have member : found ∈ calls.entered := List.mem_of_find?_eq_some first
    refine iff_of_false (fun same => outside ?_) (by simp)
    rwa [← Option.some.inj same]

/-- Nobody else takes that place. -/
theorem teller?_enter_of_ne (differs : other ≠ caller) (key : String) :
    (calls.enter caller).teller? key = some other ↔ calls.teller? key = some other := by
  rw [teller?_enter]
  cases calls.teller? key with
  | none =>
    rw [Option.none_or]
    refine iff_of_false (fun same => ?_) (by simp)
    split at same
    · exact differs (Option.some.inj same).symm
    · cases same
  | some found => exact Iff.rfl

/-- **Entering keeps every call where it must be.** -/
theorem Kept.enter (kept : Kept nodeName calls) (waits : calls.left caller = none) :
    Kept nodeName (calls.enter caller) := by
  have unentered := kept.notMem_of_left waits
  have silent : (calls.enter caller).saidBy caller = [] := (kept.outside caller unentered).2
  have entered (other : Caller) :
      other ∈ (calls.enter caller).entered ↔ other ∈ calls.entered ∨ other = caller := by
    rw [Calls.enter, List.mem_append, List.mem_singleton]
  have first := kept.teller?_enter_self unentered
  constructor
  case named => exact nodeName_consider.trans kept.named
  case distinct => exact nodup_reported_consider kept.distinct
  case reported =>
    intro key
    simp only [entered, or_and_right, exists_or, exists_eq_left, ← kept.reported key]
    exact mem_reported_consider
  case outside =>
    intro other member
    obtain ⟨before, differs⟩ := not_or.mp (mt (entered other).mpr member)
    rw [left_enter_of_ne differs]
    exact kept.outside other before
  case teller =>
    intro other isFirst
    by_cases same : other = caller
    · subst same
      rw [left_enter_self, silent, report_of_notMem (first.mp isFirst),
        addressed_of_nodeName kept.named]
      exact .about _
    · rw [left_enter_of_ne same]
      exact kept.teller other ((teller?_enter_of_ne same _).mp isFirst)
  case late =>
    intro other member notFirst
    by_cases same : other = caller
    · subst same
      have known := not_not.mp (mt first.mpr notFirst)
      exact ⟨⟨_, left_enter_self.trans (congrArg some (report_of_mem known))⟩, silent⟩
    · rw [Returned, left_enter_of_ne same]
      exact kept.late other (((entered other).mp member).resolve_right same)
        (mt (teller?_enter_of_ne same _).mpr notFirst)

/-- A call that can go on is about to publish, and has then done so. -/
theorem Publishes.step {event : DiskEvent} {before rest : AgentDialogue (Bool × Reporter)}
    {said : List AgentExchange} {exchange : AgentExchange}
    (publishes : Publishes event (some before) said) (step : Step before exchange rest) :
    Publishes event (some rest) (said ++ [exchange]) := by
  cases publishes with
  | about after =>
    obtain ⟨answer, rfl, rfl⟩ := step_ask_iff.mp step
    exact .done after answer
  | done after answer => exact absurd step not_step_done

/-- **Going on keeps every call where it must be.** -/
theorem Kept.goOn (kept : Kept nodeName calls) {before rest : AgentDialogue (Bool × Reporter)}
    {exchange : AgentExchange} (left : calls.left caller = some before)
    (step : Step before exchange rest) : Kept nodeName (calls.goOn caller exchange rest) := by
  have entered : caller ∈ calls.entered := by
    by_contra outside
    rw [(kept.outside caller outside).1] at left
    cases left
  have first : calls.teller? (events caller).key = some caller := by
    by_contra notFirst
    obtain ⟨⟨after, returned⟩, -⟩ := kept.late caller entered notFirst
    rw [left] at returned
    cases returned
    exact not_step_done step
  have publishes := kept.teller caller first
  rw [left] at publishes
  constructor
  case named => exact kept.named
  case reported => exact kept.reported
  case distinct => exact kept.distinct
  case outside =>
    intro other outside
    have differs : other ≠ caller := fun same => outside (same ▸ entered)
    rw [left_goOn_of_ne differs, saidBy_goOn_of_ne differs]
    exact kept.outside other outside
  case teller =>
    intro other isFirst
    by_cases same : other = caller
    · subst same
      rw [left_goOn_self, saidBy_goOn_self]
      exact publishes.step step
    · rw [left_goOn_of_ne same, saidBy_goOn_of_ne same]
      exact kept.teller other isFirst
  case late =>
    intro other member notFirst
    have differs : other ≠ caller := fun same => notFirst (same ▸ first)
    rw [Returned, left_goOn_of_ne differs, saidBy_goOn_of_ne differs]
    exact kept.late other member notFirst

end Steps

theorem kept_of_reachable {nodeName : Option String} {calls : Calls events}
    (reachable : Reachable events (Reporter.new nodeName) calls) : Kept nodeName calls := by
  induction reachable with
  | start => exact kept_start nodeName
  | enter caller _ waits ih => exact ih.enter waits
  | goOn caller _ left step ih => exact ih.goOn left step

/-! ### What has been told -/

/-- **Each key is told once.** -/
structure ToldOnce (nodeName : Option String) (calls : Calls events) : Prop where
  /-- The count is the number of keys with which calls have entered. -/
  count : calls.reporter.count =
    (calls.entered.map fun caller => (events caller).key).toFinset.card
  /-- At no time have two calls with one key found their event new, or published it. -/
  single : ∀ first second, (events first).key = (events second).key →
    (calls.Returned first true ∨ calls.saidBy first ≠ []) →
    (calls.Returned second true ∨ calls.saidBy second ≠ []) → first = second
  /-- Who has entered has returned, or does so when its event has been published or refused. -/
  returns : ∀ caller ∈ calls.entered, (∃ isNew, calls.Returned caller isNew) ∨
    ∃ event after, calls.left caller = some (.ask (.publish event) fun _ => .done (true, after))
  /-- When all calls with a key have returned, one of them has published its own event, once, and
  the others nothing. -/
  once : ∀ key, (∃ caller, (events caller).key = key) →
    (∀ caller, (events caller).key = key → ∃ isNew, calls.Returned caller isNew) →
    ∃ teller, (events teller).key = key ∧ calls.Returned teller true ∧
      (∃ answer, calls.saidBy teller =
        [⟨.publish ((events teller).signed nodeName), answer⟩]) ∧
      ∀ other, other ≠ teller → (events other).key = key →
        calls.Returned other false ∧ calls.saidBy other = []

section Told

variable {nodeName : Option String} {calls : Calls events}

/-- Only the first call with a key finds its event new, or says anything. -/
theorem Kept.teller_of_told (kept : Kept nodeName calls) {caller : Caller}
    (told : calls.Returned caller true ∨ calls.saidBy caller ≠ []) :
    calls.teller? (events caller).key = some caller := by
  by_contra notFirst
  by_cases entered : caller ∈ calls.entered
  · obtain ⟨returned, silent⟩ := kept.late caller entered notFirst
    rcases told with new | said
    · cases new.unique returned
    · exact said silent
  · obtain ⟨nothing, silent⟩ := kept.outside caller entered
    rcases told with ⟨after, left⟩ | said
    · rw [nothing] at left
      cases left
    · exact said silent

/-- Who has returned has entered. -/
theorem Kept.mem_of_returned (kept : Kept nodeName calls) {caller : Caller} {isNew : Bool}
    (returned : calls.Returned caller isNew) : caller ∈ calls.entered := by
  by_contra outside
  obtain ⟨after, left⟩ := returned
  rw [(kept.outside caller outside).1] at left
  cases left

/-- Who has entered is at most one answer away from its end. -/
theorem Kept.returns (kept : Kept nodeName calls) {caller : Caller}
    (entered : caller ∈ calls.entered) :
    (∃ isNew, calls.Returned caller isNew) ∨
      ∃ event after,
        calls.left caller = some (.ask (.publish event) fun _ => .done (true, after)) := by
  by_cases first : calls.teller? (events caller).key = some caller
  · have publishes := kept.teller caller first
    generalize left : calls.left caller = rest, calls.saidBy caller = said at publishes
    cases publishes with
    | about after => exact Or.inr ⟨_, after, rfl⟩
    | done after answer => exact Or.inl ⟨true, after, left⟩
  · exact Or.inl ⟨false, (kept.late caller entered first).1⟩

theorem Kept.count (kept : Kept nodeName calls) :
    calls.reporter.count =
      (calls.entered.map fun caller => (events caller).key).toFinset.card := by
  rw [Reporter.count, ← List.toFinset_card_of_nodup kept.distinct]
  congr 1
  ext key
  rw [List.mem_toFinset, List.mem_toFinset, List.mem_map, kept.reported]

/-- **Of the calls with a key, the first to enter tells it.** -/
theorem Kept.told_of_returned (kept : Kept nodeName calls) {key : String}
    (carried : ∃ caller, (events caller).key = key)
    (returned : ∀ caller, (events caller).key = key → ∃ isNew, calls.Returned caller isNew) :
    ∃ teller, (events teller).key = key ∧ calls.Returned teller true ∧
      (∃ answer, calls.saidBy teller =
        [⟨.publish ((events teller).signed nodeName), answer⟩]) ∧
      ∀ other, other ≠ teller → (events other).key = key →
        calls.Returned other false ∧ calls.saidBy other = [] := by
  obtain ⟨caller, carries⟩ := carried
  obtain ⟨isNew, back⟩ := returned caller carries
  obtain ⟨teller, first⟩ : ∃ teller, calls.teller? key = some teller := by
    apply Option.ne_none_iff_exists'.mp
    rw [ne_eq, teller?_eq_none_iff]
    exact fun nobody => nobody caller (kept.mem_of_returned back) carries
  have told : (events teller).key = key := by simpa using List.find?_some first
  obtain ⟨news, after, left⟩ := returned teller told
  have publishes := kept.teller teller (told.symm ▸ first)
  rw [left] at publishes
  obtain ⟨answer, said, isTrue⟩ : ∃ answer, calls.saidBy teller =
      [⟨.publish ((events teller).signed nodeName), answer⟩] ∧ news = true := by
    generalize calls.saidBy teller = exchanges at publishes
    cases publishes with
    | done after answer => exact ⟨answer, rfl, rfl⟩
  refine ⟨teller, told, ⟨after, isTrue ▸ left⟩, ⟨answer, said⟩, fun other differs same => ?_⟩
  obtain ⟨late, back⟩ := returned other same
  refine kept.late other (kept.mem_of_returned back) fun also => differs ?_
  rw [same, first] at also
  exact (Option.some.inj also).symm

theorem Kept.toldOnce (kept : Kept nodeName calls) : ToldOnce nodeName calls where
  count := kept.count
  single first second same oneTold twoTold := by
    have one := kept.teller_of_told oneTold
    rw [same, kept.teller_of_told twoTold] at one
    exact (Option.some.inj one).symm
  returns caller := kept.returns
  once key := kept.told_of_returned

end Told

end Calls

/-! ### One call after another -/

/-- Calls one after another: what they return, and the reporter afterwards. -/
def reportEach : Reporter → List DiskEvent → AgentDialogue (List Bool × Reporter)
  | reporter, [] => .done ([], reporter)
  | reporter, event :: later =>
    (reporter.report event).bind fun told =>
      (told.2.reportEach later).bind fun others => .done (told.1 :: others.1, others.2)

/-- The first event of each key, in order. -/
def firstOfEach (events : List DiskEvent) : List DiskEvent :=
  events.eraseDupsBy fun later earlier => later.key == earlier.key

theorem questions_reportEach {reporter : Reporter} {events : List DiskEvent}
    {exchanges : List AgentExchange} {result : List Bool × Reporter}
    (conversation : Conversation (reporter.reportEach events) exchanges result) :
    exchanges.map Exchange.question =
      (firstOfEach (events.filter fun event => event.key ∉ reporter.reported)).map fun event =>
        .publish (reporter.addressed event) := by
  induction events generalizing reporter exchanges result with
  | nil =>
    obtain ⟨rfl, -⟩ := conversation_done_iff.mp conversation
    rfl
  | cons event later ih =>
    obtain ⟨early, told, rest, rfl, reports, goes⟩ := conversation_bind_iff.mp conversation
    obtain ⟨others, more, rfl⟩ := conversation_bind_done_iff.mp goes
    have after := ih more
    by_cases known : event.key ∈ reporter.reported
    · rw [report_of_mem known] at reports
      obtain ⟨rfl, rfl⟩ := conversation_done_iff.mp reports
      rw [List.filter_cons_of_neg (by simpa using known)]
      exact after
    · rw [report_of_notMem known, consider_of_notMem known] at reports
      obtain ⟨answer, ends, rfl, published⟩ := conversation_ask_iff.mp reports
      obtain ⟨rfl, rfl⟩ := conversation_done_iff.mp published
      have fresh (other : DiskEvent) :
          decide (other.key ∉ event.key :: reporter.reported) =
            (decide ((other.key == event.key) = false) &&
              decide (other.key ∉ reporter.reported)) := by
        simp [not_or]
      simp only [fresh] at after
      rw [List.filter_cons_of_pos (by simpa using known), firstOfEach, List.eraseDupsBy_cons,
        List.filter_filter]
      exact congrArg (Call.publish (reporter.addressed event) :: ·) after

/-! ### Everything together -/

/-- **News is told once**, whoever reports it and whenever: the key of an event is its reason, its
type and its disk, calls at the same time tell each key once, and calls one after another tell the
first event of each key. -/
theorem news_told_once (nodeName : Option String) :
    (∀ first second : DiskEvent, first.key = second.key ↔
      first.reason = second.reason ∧ first.eventType = second.eventType ∧
        first.disk = second.disk) ∧
    (∀ {Caller : Type} [DecidableEq Caller] (events : Caller → DiskEvent) (calls : Calls events),
      Calls.Reachable events (Reporter.new nodeName) calls → calls.ToldOnce nodeName) ∧
    ∀ events exchanges result,
      Conversation ((Reporter.new nodeName).reportEach events) exchanges result →
        exchanges.map Exchange.question =
          (firstOfEach events).map fun event => .publish (event.signed nodeName) := by
  refine ⟨fun first second => DiskEvent.key_eq_iff, fun events calls reachable => ?_,
    fun events exchanges result conversation => ?_⟩
  · exact (Calls.kept_of_reachable reachable).toldOnce
  · have none (event : DiskEvent) : decide (event.key ∉ (Reporter.new nodeName).reported) = true :=
      decide_eq_true List.not_mem_nil
    have addressed : (Reporter.new nodeName).addressed = DiskEvent.signed nodeName :=
      funext (addressed_of_nodeName rfl)
    have questions := questions_reportEach conversation
    simp only [none, List.filter_true, addressed] at questions
    exact questions

/-- Two events about one disk, which has a colon in its name. -/
def sameDisk (first : Bool) : DiskEvent :=
  ⟨.cannotListDevices, .warning, if first then "timed out" else "timed out again", "sd:b"⟩

/-- The second call enters before the first one publishes, and the cluster refuses that. One after
the other they publish the first event as well. -/
theorem sameDisk_told_once :
    (∃ calls, Calls.Reachable sameDisk (Reporter.new (some "node1")) calls ∧
      calls.ToldOnce (some "node1") ∧ calls.Returned true true ∧ calls.Returned false false ∧
      calls.saidBy true =
        [⟨.publish ((sameDisk true).signed (some "node1")), .error (.internal "refused")⟩]) ∧
    ∃ exchanges result,
      Conversation ((Reporter.new (some "node1")).reportEach [sameDisk true, sameDisk false])
        exchanges result ∧
      exchanges.map Exchange.question =
        (firstOfEach [sameDisk true, sameDisk false]).map fun event =>
          .publish (event.signed (some "node1")) := by
  have reachable := (Calls.Reachable.start : Calls.Reachable sameDisk (.new (some "node1")) _)
    |>.enter true rfl
    |>.enter false rfl
    |>.goOn true rfl (.ask (.error (.internal "refused")))
  have inTurn :
      Conversation ((Reporter.new (some "node1")).reportEach [sameDisk true, sameDisk false])
        [⟨.publish ((sameDisk true).signed (some "node1")), Except.ok ()⟩]
        ([true, false], ⟨"node1", [(sameDisk true).key]⟩) :=
    conversation_ask_iff.mpr ⟨Except.ok (), [], rfl, .done _⟩
  obtain ⟨-, atOnce, oneByOne⟩ := news_told_once (some "node1")
  exact ⟨⟨_, reachable, atOnce _ _ reachable, ⟨_, rfl⟩, ⟨_, rfl⟩, rfl⟩,
    ⟨_, _, inTurn, oneByOne _ _ _ inTurn⟩⟩

end Reporter

end NodeStorage.Discovery
