/-
**Clean-ups that are started again.**

A clean-up may fail, and then it is started again, until an attempt comes through in which nothing
fails (`attempted`). Each attempt may have removed anything of what is to be removed, in whatever
way the calls were answered; so it does not help to follow the clusters in between. What does not
change is the cluster that a clean-up would leave: taking away what is already away changes
nothing.

* `cleaned_attempted` — whatever is refused, attempts do not change what a clean-up leaves.
* `CleanedUp` — what is to be removed is gone, and everything else is as it was.
* `retried` — **the attempt that comes through leaves the first cluster cleaned up**, and no attempt
  deletes the failed job, which keeps the checkpoint, before the filesystem is gone.
-/

import NodeStorage.Proofs.Provisioning.CleanUp

namespace NodeStorage.Provisioning

open Dialogue Cluster InMemory

/-! ### Attempts -/

/-- The state after jobs that were run one after another, while calls are refused. -/
def attempted (refusals : Refusals) : List JobRequest → Counted → Counted
  | [], state => state
  | request :: rest, state =>
    attempted refusals rest (Dialogue.run (Counted.respond refusals) request.run state).2

/-- The state in which no call is planned to fail any more. -/
def mended (state : Counted) : Counted :=
  { state with cluster := { state.cluster with failures := [] } }

namespace CleanupRequest

variable {cleanup : CleanupRequest}

/-- The same clean-up, a number of times. -/
def times (cleanup : CleanupRequest) (attempts : Nat) : List JobRequest :=
  List.replicate attempts (.cleanupFailedJob cleanup)

/-! ### What attempts do not change -/

/-- A call of a clean-up removes nothing that the clean-up does not remove. -/
theorem cleaned_respond {refusals : Refusals} {earlier : List JobExchange} {call : JobCall}
    (allowed : cleanup.Allows earlier call) (state : Counted) :
    cleanup.cleaned (Counted.respond refusals call state).2.cluster =
      cleanup.cleaned state.cluster := by
  have kept {operation name : String} {perform : StorageCluster → Outcome Unit × StorageCluster}
      (same : cleanup.cleaned (perform state.cluster).2 = cleanup.cleaned state.cluster) :
      cleanup.cleaned (state.cluster.failures.guard operation name state.cluster perform).2 =
        cleanup.cleaned state.cluster :=
    Failures.guard_keeps (P := (cleanup.cleaned · = cleanup.cleaned state.cluster)) rfl same
  refine Counted.respond_keeps (P := (cleanup.cleaned · = cleanup.cleaned state.cluster)) rfl ?_
  cases call with
  | deleteStorageClass name =>
    have named : cleanup.created.storageClass = some name := allowed
    refine kept ?_
    rw [StorageCluster.deleteStorageClass_snd]
    simp [cleaned, named, classesWithout]
  | deleteFilesystem target =>
    obtain ⟨name, namespaceName⟩ := target
    obtain ⟨named, rfl⟩ := allowed
    refine kept ?_
    rw [StorageCluster.deleteFilesystem_snd]
    have twice := StorageCluster.without_without state.cluster.filesystems
      ⟨name, cleanup.namespaceName⟩
    simp only [cleaned, named, filesystemsWithout, twice]
  | deleteJob job =>
    obtain ⟨named, -⟩ := allowed
    refine kept ?_
    rw [StorageCluster.deleteJob_snd]
    have twice := StorageCluster.without_without state.cluster.jobs job
    simp only [cleaned, named, jobsWithout, twice]
  | createLocalDisk | createFilesystem | createStorageClass | getFilesystem | labelFilesystem
  | annotateJob => exact allowed.elim

/-- **An attempt does not change what a clean-up leaves.** -/
theorem cleaned_run (refusals : Refusals) (cleanup : CleanupRequest) (state : Counted) :
    cleanup.cleaned (Dialogue.run (Counted.respond refusals) cleanup.run state).2.cluster =
      cleanup.cleaned state.cluster := by
  have each := (abides_cleanup cleanup).of_conversation
    (conversation_trace (Counted.respond refusals) cleanup.run state)
  refine (leads_trace (Counted.respond refusals) cleanup.run state).keeps
    (P := fun last => cleanup.cleaned last.cluster = cleanup.cleaned state.cluster) rfl
    fun exchange member next same => ?_
  obtain ⟨earlier, later, split⟩ := List.append_of_mem member
  exact (cleaned_respond (each.at split) next).trans same

/-- **Attempts do not change what a clean-up leaves**, as many as there are. -/
theorem cleaned_attempted (refusals : Refusals) (cleanup : CleanupRequest) (attempts : Nat)
    (state : Counted) :
    cleanup.cleaned (attempted refusals (cleanup.times attempts) state).cluster =
      cleanup.cleaned state.cluster := by
  induction attempts generalizing state with
  | zero => rfl
  | succ attempts ih =>
    have more : cleanup.times (attempts + 1) =
        .cleanupFailedJob cleanup :: cleanup.times attempts := rfl
    rw [more, attempted, ih]
    exact cleaned_run refusals cleanup state

/-! ### What is left -/

/-- **What is to be removed is gone, and everything else is as it was.** -/
structure CleanedUp (cleanup : CleanupRequest) (before after : StorageCluster) : Prop where
  filesystem : ∀ name, cleanup.created.filesystem = some name →
    StorageCluster.find? after.filesystems ⟨name, cleanup.namespaceName⟩ = none
  storageClass : ∀ name, cleanup.created.storageClass = some name → name ∉ after.storageClasses
  failedJob : ∀ job, cleanup.failedJob = some job → StorageCluster.find? after.jobs job = none
  otherFilesystems : ∀ target,
    (∀ name, cleanup.created.filesystem = some name → target ≠ ⟨name, cleanup.namespaceName⟩) →
    StorageCluster.find? after.filesystems target =
      StorageCluster.find? before.filesystems target
  otherStorageClasses : ∀ name, cleanup.created.storageClass ≠ some name →
    (name ∈ after.storageClasses ↔ name ∈ before.storageClasses)
  otherJobs : ∀ job, cleanup.failedJob ≠ some job →
    StorageCluster.find? after.jobs job = StorageCluster.find? before.jobs job
  localDisks : after.localDisks = before.localDisks

/-- What a clean-up leaves is cleaned up. -/
theorem cleanedUp_cleaned (cleanup : CleanupRequest) (before : StorageCluster) :
    cleanup.CleanedUp before (cleanup.cleaned before) where
  filesystem name named := by
    simp only [cleaned, named, filesystemsWithout]
    exact StorageCluster.find?_without _ _
  storageClass name named := by
    simp [cleaned, named, classesWithout]
  failedJob job named := by
    simp only [cleaned, named, jobsWithout]
    exact StorageCluster.find?_without _ _
  otherFilesystems target differs := by
    cases named : cleanup.created.filesystem with
    | none => simp only [cleaned, named, filesystemsWithout]
    | some name =>
      simp only [cleaned, named, filesystemsWithout]
      exact StorageCluster.find?_without_of_ne _ (differs name named)
  otherStorageClasses name differs := by
    cases named : cleanup.created.storageClass with
    | none => simp only [cleaned, named, classesWithout]
    | some other =>
      have apart : name ≠ other := fun same => differs (named.trans (congrArg some same.symm))
      simp [cleaned, named, classesWithout, apart]
  otherJobs job differs := by
    cases named : cleanup.failedJob with
    | none => simp only [cleaned, named, jobsWithout]
    | some other =>
      have apart : job ≠ other := fun same => differs (named.trans (congrArg some same.symm))
      simp only [cleaned, named, jobsWithout]
      exact StorageCluster.find?_without_of_ne _ apart
  localDisks := rfl

/-- The failed job is deleted only after the filesystem, if there was one to delete. -/
def DropsJobLast (cleanup : CleanupRequest) (exchanges : List JobExchange) : Prop :=
  ∀ earlier job answer later, exchanges = earlier ++ ⟨.deleteJob job, answer⟩ :: later →
    ∀ name, cleanup.created.filesystem = some name →
      ∃ answer, ⟨.deleteFilesystem ⟨name, cleanup.namespaceName⟩, answer⟩ ∈ earlier ∧ Gone answer

theorem dropsJobLast_of_conversation {exchanges : List JobExchange} {result : Outcome Unit}
    (conversation : Conversation cleanup.run exchanges result) :
    cleanup.DropsJobLast exchanges := by
  intro earlier job answer later split name named
  have allowed : cleanup.Allows earlier (.deleteJob job) :=
    ((abides_cleanup cleanup).of_conversation conversation).at split
  exact allowed.2 name named

/-! ### The attempt that comes through -/

/-- **A clean-up that is started again comes to the same end**, whatever is refused before: the
first attempt in which nothing is refused works and leaves the first cluster cleaned up, and every
attempt keeps the failed job until the filesystem is gone. -/
theorem retried (cleanup : CleanupRequest) (refusals : Refusals) (attempts : Nat)
    (initial : Counted) :
    (∃ last, Dialogue.run (Counted.respond .never) cleanup.run
        (mended (attempted refusals (cleanup.times attempts) initial)) = (.ok (), last) ∧
      cleanup.CleanedUp initial.cluster last.cluster) ∧
    ∀ exchanges result, Conversation cleanup.run exchanges result →
      cleanup.DropsJobLast exchanges := by
  refine ⟨?_, fun exchanges result => dropsJobLast_of_conversation⟩
  have before := cleaned_attempted refusals cleanup attempts initial
  generalize attempted refusals (cleanup.times attempts) initial = state at before ⊢
  have working : (mended state).cluster.failures = [] := rfl
  obtain ⟨worked, left⟩ := run_cleanup Refusals.onlyCreations_never working cleanup
  have same : cleanup.cleaned (mended state).cluster =
      { cleanup.cleaned initial.cluster with failures := [] } := by
    rw [← before]
    rfl
  refine ⟨_, Prod.ext worked rfl, ?_⟩
  show cleanup.CleanedUp initial.cluster
    (Dialogue.run (Counted.respond .never) cleanup.run (mended state)).2.cluster
  rw [left, same]
  -- Only the plan of failures differs, and nothing is said about it.
  exact { cleanedUp_cleaned cleanup initial.cluster with }

end CleanupRequest

end NodeStorage.Provisioning
