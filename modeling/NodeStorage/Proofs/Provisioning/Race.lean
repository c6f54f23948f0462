/-
**Racing jobs never share what they make.**

Any number of runs ask one cluster at the same time, in any order of their calls, and any call may
be refused. A storage class is named after its filesystem but stands outside all namespaces, so runs
get in each other's way at different steps. Still whatever comes into the cluster comes in by one
call of one run, and this run alone has it in its checkpoint.

* `Race`, `Race.Reachable` — the runs at their places, the cluster, and what was said so far.
* `Checkpoint.Owns` — what a checkpoint says that its job may take away again.
* `Race.Accounts` — what every exchange preserves: the cluster has what was there at first and what
  the runs have made, each made once and owned by the run that made it (`accounts_of_reachable`).
* `Race.unshared` — **every new filesystem and storage class belongs to exactly one run**, and
  cleaning up after a run takes nothing from the others.
-/

import Mathlib.Logic.Function.Basic
import NodeStorage.Proofs.InMemory.Things
import NodeStorage.Proofs.Provisioning.CleanUp
import NodeStorage.Proofs.Provisioning.Place

namespace NodeStorage.Provisioning

open Dialogue Cluster InMemory CreateRequest

/-! ### What a checkpoint owns -/

/-- The checkpoint of a job in a namespace says that the job has made the thing. Of local disks it
says no such thing, as those that are used again stand beside the new ones. -/
def Checkpoint.Owns (checkpoint : Checkpoint) (namespaceName : String) : Thing → Prop
  | .localDisk _ => False
  | .filesystem name => checkpoint.filesystem = some name.name ∧ name.namespaceName = namespaceName
  | .storageClass name => checkpoint.storageClass = some name

theorem owns_congr {first second : Checkpoint} (filesystem : first.filesystem = second.filesystem)
    (storageClass : first.storageClass = second.storageClass) (namespaceName : String)
    (thing : Thing) : first.Owns namespaceName thing ↔ second.Owns namespaceName thing := by
  cases thing <;> simp only [Checkpoint.Owns, filesystem, storageClass]

/-- A clean-up asks to delete only what its checkpoint owns. -/
theorem owns_of_deleted {cleanup : CleanupRequest} {exchanges : List JobExchange}
    {result : Outcome Unit} (conversation : Conversation cleanup.run exchanges result)
    {exchange : JobExchange} (member : exchange ∈ exchanges) {thing : Thing}
    (deleted : deleted? exchange.question = some thing) :
    cleanup.created.Owns cleanup.namespaceName thing := by
  obtain ⟨earlier, later, split⟩ := List.append_of_mem member
  have allowed := ((abides_cleanup cleanup).of_conversation conversation).at split
  obtain ⟨call, answer⟩ := exchange
  cases call with
  | deleteFilesystem target | deleteStorageClass name =>
    cases deleted
    exact allowed
  | _ => cases deleted

namespace CreateRequest

variable {request : CreateRequest}

/-- The run has the thing in its checkpoint. -/
def Place.Owns (place : Place request) (thing : Thing) : Prop :=
  place.progress.checkpoint.Owns request.namespaceName thing

theorem checkpoint_atDisks {made left : List Lun} (split : request.newLuns = made ++ left) :
    (Place.atDisks made left split).progress.checkpoint.filesystem = none ∧
      (Place.atDisks made left split).progress.checkpoint.storageClass = none := by
  cases left <;> exact ⟨rfl, rfl⟩

theorem Place.owns_of_same {place next : Place request} {exchange : JobExchange} {thing : Thing}
    (filesystem : next.progress.checkpoint.filesystem = place.progress.checkpoint.filesystem)
    (storageClass : next.progress.checkpoint.storageClass = place.progress.checkpoint.storageClass)
    (nothing : made? exchange ≠ some thing) :
    next.Owns thing ↔ place.Owns thing ∨ made? exchange = some thing :=
  (owns_congr filesystem storageClass _ thing).trans (or_iff_left nothing).symm

/-- **A run owns what it has made**, and nothing else. -/
theorem Place.owns_turn {place next : Place request} {exchange : JobExchange}
    (turn : Turn place exchange next) {thing : Thing} (kept : ∀ name, thing ≠ .localDisk name) :
    next.Owns thing ↔ place.Owns thing ∨ made? exchange = some thing := by
  cases turn with
  | opened | pooled | classed | completed | failed =>
    exact owns_of_same rfl rfl fun made => by cases made
  | entered answer =>
    obtain ⟨filesystem, storageClass⟩ :=
      checkpoint_atDisks (List.nil_append request.newLuns).symm
    exact owns_of_same filesystem storageClass fun made => by cases made
  | diskMade further =>
    obtain ⟨filesystem, storageClass⟩ := checkpoint_atDisks further
    exact owns_of_same filesystem storageClass fun made => kept _ (Option.some.inj made).symm
  | refused creation cause =>
    exact owns_of_same rfl rfl fun made => by cases creation <;> cases made
  | filesystemMade =>
    cases thing with
    | localDisk name => exact absurd rfl (kept name)
    | storageClass name => exact (or_iff_left fun made => by cases made).symm
    | filesystem name =>
      constructor
      · obtain ⟨name, namespaceName⟩ := name
        rintro ⟨⟨⟩, ⟨⟩⟩
        exact Or.inr rfl
      · rintro (⟨⟨⟩, -⟩ | ⟨⟨⟩⟩)
        exact ⟨rfl, rfl⟩
  | storageClassMade =>
    cases thing with
    | localDisk name => exact absurd rfl (kept name)
    | filesystem name => exact (or_iff_left fun made => by cases made).symm
    | storageClass name =>
      constructor
      · rintro ⟨⟩
        exact Or.inr rfl
      · rintro (⟨⟨⟩⟩ | ⟨⟨⟩⟩)
        rfl

/-- A run makes things and takes notes, and asks for nothing else. -/
theorem Place.creating_of_turn {place next : Place request} {exchange : JobExchange}
    (turn : Turn place exchange next) :
    exchange.question.isCreation = true ∨
      ∃ job texts, exchange.question = .annotateJob job texts := by
  cases turn with
  | opened | entered | pooled | classed | completed | failed => exact Or.inr ⟨_, _, rfl⟩
  | diskMade | filesystemMade | storageClassMade => exact Or.inl rfl
  | refused creation cause => cases creation <;> exact Or.inl rfl

end CreateRequest

/-! ### Races -/

/-- Runs that share a cluster. -/
structure Race {Run : Type} (requests : Run → CreateRequest) where
  /-- Where each run is. -/
  places : (run : Run) → Place (requests run)
  cluster : StorageCluster
  /-- What was said so far, with the run that said it. -/
  history : List (Run × JobExchange)

namespace Race

variable {Run : Type} {requests : Run → CreateRequest}

/-- The checkpoint that a run has in memory. -/
def checkpoint (race : Race requests) (run : Run) : Checkpoint :=
  (race.places run).progress.checkpoint

/-- The run has the thing in its checkpoint. -/
def Owns (race : Race requests) (run : Run) (thing : Thing) : Prop :=
  (race.checkpoint run).Owns (requests run).namespaceName thing

/-- The run has made the thing. -/
def Made (race : Race requests) (run : Run) (thing : Thing) : Prop :=
  ∃ exchange, (run, exchange) ∈ race.history ∧ made? exchange = some thing

/-- The clean-up after a run, with its checkpoint and in its namespace. -/
def cleanup (race : Race requests) (run : Run) (failedJob : Option ObjectName) : CleanupRequest :=
  ⟨(requests run).namespaceName, failedJob, race.checkpoint run⟩

variable [DecidableEq Run]

/-- What a run has said. -/
def saidBy (race : Race requests) (run : Run) : List JobExchange :=
  (race.history.filter fun entry => entry.1 = run).map Prod.snd

/-- The race after one more exchange of a run. -/
def goesOn (race : Race requests) (run : Run) (next : Place (requests run))
    (exchange : JobExchange) (after : StorageCluster) : Race requests where
  places := Function.update race.places run next
  cluster := after
  history := race.history ++ [(run, exchange)]

/-- **The races that can come about** in a cluster: one run after another has its next call served,
in any order. -/
inductive Reachable (requests : Run → CreateRequest) (initial : StorageCluster) :
    Race requests → Prop
  | start : Reachable requests initial ⟨fun _ => .opening, initial, []⟩
  | turn {race : Race requests} (run : Run) {next : Place (requests run)}
      {exchange : JobExchange} {after : StorageCluster} :
      Reachable requests initial race → Place.Turn (race.places run) exchange next →
      Served race.cluster exchange after →
      Reachable requests initial (race.goesOn run next exchange after)

/-! ### What every exchange preserves -/

/-- **Everything in the cluster is accounted for.** -/
structure Accounts (initial : StorageCluster) (race : Race requests) : Prop where
  /-- The cluster has what was there at first and what was made. -/
  has : ∀ thing, race.cluster.Has thing ↔ initial.Has thing ∨ ∃ run, race.Made run thing
  /-- What is made was not there at first. -/
  new : ∀ thing run, race.Made run thing → ¬ initial.Has thing
  /-- Nothing is made by two runs. -/
  once : ∀ thing first second, race.Made first thing → race.Made second thing → first = second
  /-- A run owns what it has made, local disks set aside. -/
  owns : ∀ thing run, (∀ name, thing ≠ .localDisk name) →
    (race.Owns run thing ↔ race.Made run thing)
  /-- Every run is where its own exchanges have led it. -/
  turns : ∀ run, Place.Turns .opening (race.saidBy run) (race.places run)

section Steps

variable {initial after : StorageCluster} {race : Race requests} {run : Run}
  {next : Place (requests run)} {exchange : JobExchange}

theorem accounts_start (requests : Run → CreateRequest) (initial : StorageCluster) :
    Accounts initial (⟨fun _ => .opening, initial, []⟩ : Race requests) := by
  have nothing (run : Run) (thing : Thing) :
      ¬ Made (⟨fun _ => .opening, initial, []⟩ : Race requests) run thing := by
    rintro ⟨exchange, member, -⟩
    cases member
  constructor
  case has => exact fun thing => (or_iff_left fun ⟨maker, made⟩ => nothing maker thing made).symm
  case new => exact fun thing run made => absurd made (nothing run thing)
  case once => exact fun thing first second made => absurd made (nothing first thing)
  case owns =>
    intro thing run kept
    refine iff_of_false ?_ (nothing run thing)
    cases thing with
    | localDisk name => exact absurd rfl (kept name)
    | filesystem name => rintro ⟨⟨⟩, -⟩
    | storageClass name => rintro ⟨⟩
  case turns => exact fun run => .none _

theorem made_goesOn_iff {other : Run} {thing : Thing} :
    (race.goesOn run next exchange after).Made other thing ↔
      race.Made other thing ∨ (other = run ∧ made? exchange = some thing) := by
  simp only [Made, goesOn, List.mem_append, List.mem_singleton, Prod.mk.injEq]
  constructor
  · rintro ⟨found, earlier | ⟨rfl, rfl⟩, made⟩
    · exact Or.inl ⟨found, earlier, made⟩
    · exact Or.inr ⟨rfl, made⟩
  · rintro (⟨found, earlier, made⟩ | ⟨rfl, made⟩)
    · exact ⟨found, Or.inl earlier, made⟩
    · exact ⟨exchange, Or.inr ⟨rfl, rfl⟩, made⟩

theorem places_goesOn_self : (race.goesOn run next exchange after).places run = next := by
  show Function.update race.places run next run = next
  rw [Function.update_self]

theorem places_goesOn_of_ne {other : Run} (differs : other ≠ run) :
    (race.goesOn run next exchange after).places other = race.places other := by
  show Function.update race.places run next other = race.places other
  rw [Function.update_of_ne differs]

theorem saidBy_goesOn_self :
    (race.goesOn run next exchange after).saidBy run = race.saidBy run ++ [exchange] := by
  have own : [(run, exchange)].filter (fun entry => entry.1 = run) = [(run, exchange)] :=
    List.filter_cons_of_pos (decide_eq_true rfl)
  rw [saidBy, goesOn, List.filter_append, List.map_append, own]
  rfl

theorem saidBy_goesOn_of_ne {other : Run} (differs : other ≠ run) :
    (race.goesOn run next exchange after).saidBy other = race.saidBy other := by
  have foreign : [(run, exchange)].filter (fun entry => entry.1 = other) = [] :=
    List.filter_cons_of_neg (by simpa using differs.symm)
  rw [saidBy, goesOn, List.filter_append, List.map_append, foreign]
  exact List.append_nil _

/-- **Whatever is said next, everything is accounted for.** -/
theorem Accounts.goesOn (accounts : Accounts initial race)
    (turn : Place.Turn (race.places run) exchange next)
    (served : Served race.cluster exchange after) :
    Accounts initial (race.goesOn run next exchange after) := by
  have gains := gains_served served (Place.creating_of_turn turn)
  -- All that was made is in the cluster, and what is made now was not: so nobody has made it yet.
  have fresh {thing : Thing} (made : made? exchange = some thing) :
      ¬ initial.Has thing ∧ ∀ other, ¬ race.Made other thing := by
    have absent := gains.new thing made
    rw [accounts.has] at absent
    exact ⟨fun there => absent (Or.inl there),
      fun other earlier => absent (Or.inr ⟨other, earlier⟩)⟩
  constructor
  case has =>
    intro thing
    have two : (∃ maker, (race.goesOn run next exchange after).Made maker thing) ↔
        (∃ maker, race.Made maker thing) ∨ made? exchange = some thing := by
      simp only [made_goesOn_iff, exists_or, exists_eq_left]
    rw [two, ← or_assoc, ← accounts.has]
    exact gains.has thing
  case new =>
    intro thing maker made
    rcases made_goesOn_iff.mp made with earlier | ⟨-, now⟩
    · exact accounts.new thing maker earlier
    · exact (fresh now).1
  case once =>
    intro thing first second madeFirst madeSecond
    rcases made_goesOn_iff.mp madeFirst with earlier | ⟨isFirst, now⟩ <;>
      rcases made_goesOn_iff.mp madeSecond with before | ⟨isSecond, also⟩
    · exact accounts.once thing first second earlier before
    · exact absurd earlier ((fresh also).2 first)
    · exact absurd before ((fresh now).2 second)
    · exact isFirst.trans isSecond.symm
  case owns =>
    intro thing owner kept
    rw [made_goesOn_iff]
    by_cases same : owner = run
    · subst same
      have turned := Place.owns_turn turn kept
      rw [Owns, checkpoint, places_goesOn_self, ← accounts.owns thing owner kept]
      exact turned.trans (or_congr_right (and_iff_right rfl).symm)
    · have before := accounts.owns thing owner kept
      rw [Owns, checkpoint, places_goesOn_of_ne same]
      exact before.trans (or_iff_left fun now => same now.1).symm
  case turns =>
    intro other
    by_cases same : other = run
    · subst same
      rw [saidBy_goesOn_self, places_goesOn_self]
      exact .more (accounts.turns other) turn
    · rw [saidBy_goesOn_of_ne same, places_goesOn_of_ne same]
      exact accounts.turns other

end Steps

theorem accounts_of_reachable {initial : StorageCluster} {race : Race requests}
    (reachable : Reachable requests initial race) : Accounts initial race := by
  induction reachable with
  | start => exact accounts_start requests initial
  | turn run _ turn served ih => exact ih.goesOn turn served

/-! ### Nothing is shared -/

/-- **Nothing is shared** by the runs of a race. -/
structure Unshared (initial : StorageCluster) (race : Race requests) : Prop where
  /-- Every run is where its dialogue has got to with what the run has said. -/
  dialogues : ∀ run, Steps (requests run).run (race.saidBy run) (race.places run).left
  /-- Every new filesystem is owned by exactly one run. -/
  filesystems : ∀ name, race.cluster.Has (.filesystem name) → ¬ initial.Has (.filesystem name) →
    ∃! run, race.Owns run (.filesystem name)
  /-- Every new storage class is owned by exactly one run. -/
  storageClasses : ∀ name, race.cluster.Has (.storageClass name) →
    ¬ initial.Has (.storageClass name) → ∃! run, race.Owns run (.storageClass name)
  /-- What was there at first is owned by no run. -/
  foreign : ∀ thing, initial.Has thing → ∀ run, ¬ race.Owns run thing
  /-- No local disk is made by two runs. -/
  localDisks : ∀ name first second,
    race.Made first (.localDisk name) → race.Made second (.localDisk name) → first = second
  /-- Whatever it is answered, a clean-up after a run asks to delete nothing that was there at first
  or that another run owns. -/
  asked : ∀ run failedJob exchanges result,
    Conversation (race.cleanup run failedJob).run exchanges result →
      ∀ exchange ∈ exchanges, ∀ thing, deleted? exchange.question = some thing →
        ¬ initial.Has thing ∧ ∀ other, other ≠ run → ¬ race.Owns other thing
  /-- After a clean-up all of that is still there. -/
  spared : ∀ run failedJob thing,
    (initial.Has thing ∨ ∃ other, other ≠ run ∧ race.Owns other thing) →
      (Dialogue.run StorageCluster.respond (race.cleanup run failedJob).run race.cluster).2.Has
        thing

section Shares

variable {initial : StorageCluster} {race : Race requests} (accounts : Accounts initial race)

include accounts

/-- What a run owns is new, and no other run owns it. -/
theorem Accounts.only_owner {run : Run} {thing : Thing} (owns : race.Owns run thing) :
    race.cluster.Has thing ∧ ¬ initial.Has thing ∧
      ∀ other, race.Owns other thing → other = run := by
  have kept : ∀ name, thing ≠ .localDisk name := by
    rintro name rfl
    exact owns
  have made := (accounts.owns thing run kept).mp owns
  exact ⟨(accounts.has thing).mpr (Or.inr ⟨run, made⟩), accounts.new thing run made,
    fun other also => accounts.once thing other run ((accounts.owns thing other kept).mp also) made⟩

/-- A new thing other than a local disk has an owner. -/
theorem Accounts.exists_owner {thing : Thing} (kept : ∀ name, thing ≠ .localDisk name)
    (there : race.cluster.Has thing) (new : ¬ initial.Has thing) :
    ∃! run, race.Owns run thing := by
  rcases (accounts.has thing).mp there with before | ⟨run, made⟩
  · exact absurd before new
  · have owns := (accounts.owns thing run kept).mpr made
    exact ⟨run, owns, (accounts.only_owner owns).2.2⟩

/-- A clean-up deletes nothing that is not its run's own. -/
theorem Accounts.not_owned_of_deleted {run : Run} {failedJob : Option ObjectName}
    {exchanges : List JobExchange} {result : Outcome Unit}
    (conversation : Conversation (race.cleanup run failedJob).run exchanges result) :
    ∀ exchange ∈ exchanges, ∀ thing, deleted? exchange.question = some thing →
      ¬ initial.Has thing ∧ ∀ other, other ≠ run → ¬ race.Owns other thing := by
  intro exchange member thing deleted
  have owns : race.Owns run thing := owns_of_deleted conversation member deleted
  obtain ⟨-, new, only⟩ := accounts.only_owner owns
  exact ⟨new, fun other differs also => differs (only other also)⟩

end Shares

/-- **Racing runs never share what they make**, in whatever order their calls come and whichever of
them are refused. -/
theorem unshared {requests : Run → CreateRequest} {initial : StorageCluster}
    {race : Race requests} (reachable : Reachable requests initial race) :
    Unshared initial race := by
  have accounts := accounts_of_reachable reachable
  constructor
  case dialogues =>
    exact fun run =>
      (Place.steps_left_iff .opening _ _).mpr ⟨_, accounts.turns run, rfl⟩
  case filesystems => exact fun name => accounts.exists_owner (fun _ => by simp)
  case storageClasses => exact fun name => accounts.exists_owner (fun _ => by simp)
  case foreign => exact fun thing there run owns => (accounts.only_owner owns).2.1 there
  case localDisks => exact fun name first second => accounts.once (.localDisk name) first second
  case asked => exact fun run failedJob exchanges result => accounts.not_owned_of_deleted
  case spared =>
    intro run failedJob thing mustStay
    have there : race.cluster.Has thing := by
      rcases mustStay with before | ⟨other, -, owns⟩
      · exact (accounts.has thing).mpr (Or.inl before)
      · exact (accounts.only_owner owns).1
    refine StorageCluster.has_of_leads (leads_trace _ _ _) there fun exchange member deleted => ?_
    obtain ⟨new, unowned⟩ := accounts.not_owned_of_deleted
      (conversation_trace StorageCluster.respond (race.cleanup run failedJob).run race.cluster)
      exchange member thing deleted
    rcases mustStay with before | ⟨other, differs, owns⟩
    · exact new before
    · exact unowned other differs owns

/-- Two requests for a filesystem of one name, in two namespaces. -/
def rivals (first : Bool) : CreateRequest where
  filesystemName := "fs1"
  namespaceName := if first then "storage-a" else "storage-b"
  newLuns := []
  reusedLuns := [⟨"/dev/sdc", "0x6001", "node1", true, some "sdc-0x6001"⟩]
  job := ⟨"make-fs1", "ibm-fusion-access"⟩

/-- Both runs make a filesystem; the first makes the storage class, and the second is refused. -/
theorem rivals_unshared :
    ∃ race, Reachable rivals ⟨[], [], [], [], []⟩ race ∧ Unshared ⟨[], [], [], [], []⟩ race ∧
      race.Owns true (.storageClass "fs1") ∧
      race.Owns false (.filesystem ⟨"fs1", "storage-b"⟩) ∧
      race.places false =
        .failing .storageClass (.resourceExists storageClassKind "fs1") := by
  have reachable := (Reachable.start : Reachable rivals ⟨[], [], [], [], []⟩ _)
    |>.turn true (.opened _) (.answered _)
    |>.turn false (.opened _) (.answered _)
    |>.turn true (.entered _) (.answered _)
    |>.turn false (.entered _) (.answered _)
    |>.turn true (.pooled _) (.answered _)
    |>.turn false (.pooled _) (.answered _)
    |>.turn true .filesystemMade (.answered _)
    |>.turn false .filesystemMade (.answered _)
    |>.turn true (.classed _) (.answered _)
    |>.turn false (.classed _) (.answered _)
    |>.turn true .storageClassMade (.answered _)
    |>.turn false (.refused .storageClass _) (.answered _)
  exact ⟨_, reachable, unshared reachable, rfl, ⟨rfl, rfl⟩, rfl⟩

end Race

end NodeStorage.Provisioning
