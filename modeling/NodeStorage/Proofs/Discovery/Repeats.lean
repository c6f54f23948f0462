/-
**What is stored twice stays twice.**

A status is to keep only the condition that applies now, and nothing makes sure that the status
before, which comes from the cluster, had one condition on a topic. A round drops the conditions on
other topics and puts the new condition in the place of the first one on its own; whatever else is
stored on this topic stays as it is.

* `Heads` — a condition stands in front of others and has its time from older ones on its topic.
* `conditions_nextStatus` — the conditions after any status, one by one.
* `keepsOne_iff` — **a round keeps one condition exactly when at most one is stored on its topic.**
* `degradedTwice_kept` — a status that says twice that discovery is degraded goes on doing so.
-/

import NodeStorage.Proofs.Discovery.Health

namespace NodeStorage.Discovery

/-- The conditions on a topic that are stored. -/
def storedOn (previous : Option Status) (topic : String) : List Condition :=
  (previous.elim [] Status.conditions).filter fun old => old.topic == topic

/-- The condition with another time. -/
def Condition.dated (condition : Condition) (since : Option Instant) : Condition :=
  { condition with changedAt := since }

/-- The time of a condition after older ones on its topic is that of one with the same status; when
there is none, it is the condition's own. -/
def DatedAfter (older : List Condition) (condition : Condition) (since : Option Instant) : Prop :=
  (∃ old ∈ older, old.status = condition.status ∧ since = old.changedAt) ∨
    (∀ old ∈ older, old.status ≠ condition.status) ∧ since = condition.changedAt

/-- The condition stands in front of the others, with the time that the older ones give it. -/
def Heads (condition : Condition) (older others kept : List Condition) : Prop :=
  ∃ since, kept = condition.dated since :: others ∧ DatedAfter older condition since

/-- **Only the condition that applies now is kept**, with the time since which it has applied. -/
def KeepsOne (previous : Option Status) (counts : Option PodCounts) (now : Instant)
    (status : Status) : Prop :=
  Heads (assess counts now).2 (storedOn previous (assess counts now).2.topic) [] status.conditions

theorem topic_of_mem_storedOn {previous : Option Status} {topic : String} {old : Condition}
    (stored : old ∈ storedOn previous topic) : old.topic = topic :=
  eq_of_beq (List.mem_filter.mp stored).2

/-- A condition that takes the place of another has the time of the other or its own. -/
theorem exists_dated_after (condition previous : Condition) :
    ∃ since, condition.after previous = condition.dated since ∧
      DatedAfter [previous] condition since := by
  rw [Condition.after]
  split
  · rename_i same
    exact ⟨previous.changedAt, rfl, Or.inl ⟨previous, List.mem_singleton_self _, same, rfl⟩⟩
  · rename_i differs
    refine ⟨condition.changedAt, rfl, Or.inr ⟨fun old member => ?_, rfl⟩⟩
    rw [List.mem_singleton.mp member]
    exact differs

/-- A condition that is put among others on its topic takes the place of the first. -/
theorem heads_putCondition {condition : Condition} {stored : List Condition}
    (onTopic : ∀ old ∈ stored, old.topic = condition.topic) :
    Heads condition (stored.take 1) stored.tail (putCondition condition stored) := by
  cases stored with
  | nil => exact ⟨condition.changedAt, rfl, Or.inr ⟨List.forall_mem_nil _, rfl⟩⟩
  | cons first others =>
    obtain ⟨since, same, dated⟩ := exists_dated_after condition first
    refine ⟨since, ?_, dated⟩
    rw [putCondition, if_pos (onTopic first List.mem_cons_self), same]
    rfl

section Next

variable (previous : Option Status) (counts : Option PodCounts) (generation : Option Int)
  (now : Instant)

/-- **The conditions of the next status**: the one that applies now, dated by the first that is
stored on its topic, and behind it the others that are stored there. -/
theorem conditions_nextStatus :
    Heads (assess counts now).2 ((storedOn previous (assess counts now).2.topic).take 1)
      (storedOn previous (assess counts now).2.topic).tail
      (nextStatus previous counts generation now).conditions := by
  have put : (nextStatus previous counts generation now).conditions =
      putCondition (assess counts now).2 (storedOn previous (assess counts now).2.topic) := by
    cases previous <;> rfl
  rw [put]
  exact heads_putCondition fun old => topic_of_mem_storedOn

/-- **A round keeps one condition exactly when at most one is stored on its topic.** In every case
the condition that applies now stands in front, and what is stored on its topic behind the first
such condition stays. -/
theorem keepsOne_iff :
    Heads (assess counts now).2 ((storedOn previous (assess counts now).2.topic).take 1)
        (storedOn previous (assess counts now).2.topic).tail
        (nextStatus previous counts generation now).conditions ∧
      (KeepsOne previous counts now (nextStatus previous counts generation now) ↔
        (storedOn previous (assess counts now).2.topic).length ≤ 1) := by
  have heads := conditions_nextStatus previous counts generation now
  refine ⟨heads, fun one => ?_, fun few => ?_⟩
  · obtain ⟨_, conditions, -⟩ := heads
    obtain ⟨_, only, -⟩ := one
    have nothing : (storedOn previous (assess counts now).2.topic).tail = [] :=
      (List.cons.inj (conditions.symm.trans only)).2
    have length := congrArg List.length nothing
    rw [List.length_tail, List.length_nil] at length
    omega
  · have nothing : (storedOn previous (assess counts now).2.topic).tail = [] := by
      apply List.eq_nil_of_length_eq_zero
      rw [List.length_tail]
      omega
    rwa [List.take_of_length_le few, nothing] at heads

end Next

/-- Discovery is said twice to be degraded. -/
def degradedTwice : Status where
  phase := some .failed
  conditions :=
    [⟨"Degraded", "False", some ⟨1704164645, 0⟩, none, none⟩,
     ⟨"Degraded", "False", some ⟨1704164645, 0⟩, none, none⟩]
  generation := none

/-- A round on a status with two conditions on its topic keeps both. -/
theorem degradedTwice_kept :
    ¬ KeepsOne (some degradedTwice) none ⟨1704168000, 0⟩
      (nextStatus (some degradedTwice) none (some 1) ⟨1704168000, 0⟩) := by
  rintro ⟨since, only, -⟩
  have both : (nextStatus (some degradedTwice) none (some 1) ⟨1704168000, 0⟩).conditions.length =
      2 := by
    decide
  rw [only] at both
  cases both

end NodeStorage.Discovery
