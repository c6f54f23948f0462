/-
**The status of discovery over a history of rounds.**

Every round works out a status from the counts of the pods and from the status of the round before.
Only one condition is kept, and its time is carried from round to round for as long as the counts
call for the same topic; so this time tells when the streak began, however the reasons, the messages
and the generations change meanwhile.

* `verdict` — what the counts call for, as a table; `assess_eq` says that this is what is reported.
* `conditions_nextStatus` — what one round does to the single condition of the round before.
* `statusAt_follows` — **the status of every round, after any history.**
-/

import Mathlib.Order.Bounds.Basic
import Mathlib.Order.Fin.Basic
import NodeStorage.Discovery.Status

namespace NodeStorage.Discovery

/-! ### What the counts call for -/

/-- There are pods to run, and all of them are ready. -/
def AllReady (counts : Option PodCounts) : Prop :=
  ∃ pods, counts = some pods ∧ 0 < pods.desired ∧ pods.desired ≤ pods.ready

/-- Some of the pods to run are ready and some are not. -/
def SomeReady (counts : Option PodCounts) : Prop :=
  ∃ pods, counts = some pods ∧ 0 < pods.ready ∧ pods.ready < pods.desired

/-- What can be said of discovery. -/
inductive Verdict where
  | ready | progressing | unavailable | missing
  deriving DecidableEq, Repr

namespace Verdict

/-- The phase of discovery. -/
def phase : Verdict → Phase
  | .ready | .progressing => .discovering
  | .unavailable | .missing => .failed

/-- What the condition is about. -/
def topic : Verdict → String
  | .ready => "Available"
  | .progressing => "Progressing"
  | .unavailable | .missing => "Degraded"

/-- Whether it is the case. -/
def status : Verdict → String
  | .ready => "True"
  | .progressing | .unavailable | .missing => "False"

/-- Why the verdict is what it is. -/
def reason : Verdict → String
  | .ready => "DiscoveryDaemonSetReady"
  | .progressing => "DiscoveryDaemonSetProgressing"
  | .unavailable => "DiscoveryDaemonSetUnavailable"
  | .missing => "DiscoveryDaemonSetMissing"

/-- On one topic only one thing is said. -/
theorem status_of_topic {first second : Verdict} (same : first.topic = second.topic) :
    first.status = second.status := by
  revert same
  cases first <;> cases second <;> decide

/-! Phase, topic and status tell which verdict it is, up to the reason for a failure. -/

theorem shown_ready_iff (verdict : Verdict) :
    (some verdict.phase = some .discovering ∧ verdict.topic = "Available" ∧
      verdict.status = "True") ↔ verdict = .ready := by
  cases verdict <;> decide

theorem shown_progressing_iff (verdict : Verdict) :
    (some verdict.phase = some .discovering ∧ verdict.topic = "Progressing" ∧
      verdict.status = "False") ↔ verdict = .progressing := by
  cases verdict <;> decide

theorem shown_degraded_iff (verdict : Verdict) :
    (some verdict.phase = some .failed ∧ verdict.topic = "Degraded" ∧
      verdict.status = "False") ↔ ¬ verdict = .ready ∧ ¬ verdict = .progressing := by
  cases verdict <;> decide

end Verdict

/-- What the counts call for. -/
def verdict : Option PodCounts → Verdict
  | none => .missing
  | some pods =>
    if 0 < pods.desired ∧ pods.desired ≤ pods.ready then .ready
    else if 0 < pods.ready ∧ pods.ready < pods.desired then .progressing
    else .unavailable

/-- The counts in words. -/
def countsMessage : Option PodCounts → String
  | none => "discovery DaemonSet not found"
  | some pods => pods.message

/-- The condition that the counts call for, with the time of its last change. -/
def conditionFor (counts : Option PodCounts) (since : Instant) : Condition where
  topic := (verdict counts).topic
  status := (verdict counts).status
  changedAt := some since
  reason := some (verdict counts).reason
  message := some (countsMessage counts)

theorem verdict_eq_ready_iff {counts : Option PodCounts} :
    verdict counts = .ready ↔ AllReady counts := by
  cases counts with
  | none => simp [verdict, AllReady]
  | some pods =>
    rw [verdict]
    split_ifs with all <;> simp [AllReady, all]

theorem verdict_eq_progressing_iff {counts : Option PodCounts} :
    verdict counts = .progressing ↔ SomeReady counts := by
  cases counts with
  | none => simp [verdict, SomeReady]
  | some pods =>
    rw [verdict]
    split_ifs with all part
    · simp [SomeReady]
      omega
    · simp [SomeReady, part]
    · simp [SomeReady, part]

/-- **What is reported is what the counts call for.** The rounds ask for some pods first and for all
of them then; both orders come to the same, as not all are ready where some are not. -/
theorem assess_eq (counts : Option PodCounts) (now : Instant) :
    assess counts now = ((verdict counts).phase, conditionFor counts now) := by
  cases counts with
  | none => rfl
  | some pods =>
    by_cases part : 0 < pods.ready ∧ pods.ready < pods.desired
    · have asked : 0 < pods.desired ∧ 0 < pods.ready ∧ pods.ready < pods.desired := by omega
      have notAll : ¬ (0 < pods.desired ∧ pods.desired ≤ pods.ready) := by omega
      have called : verdict (some pods) = .progressing := by
        rw [verdict, if_neg notAll, if_pos part]
      simp only [assess, if_pos asked, conditionFor, called]
      rfl
    · have asked : ¬ (0 < pods.desired ∧ 0 < pods.ready ∧ pods.ready < pods.desired) :=
        fun all => part all.2
      by_cases all : 0 < pods.desired ∧ pods.desired ≤ pods.ready
      · have called : verdict (some pods) = .ready := by rw [verdict, if_pos all]
        simp only [assess, if_neg asked, if_pos all, conditionFor, called]
        rfl
      · have called : verdict (some pods) = .unavailable := by
          rw [verdict, if_neg all, if_neg part]
        simp only [assess, if_neg asked, if_neg all, conditionFor, called]
        rfl

/-! ### What one round does -/

/-- What a round sees: the counts, the generation of the object and the time. -/
structure Observation where
  counts : Option PodCounts
  generation : Option Int
  now : Instant
  deriving DecidableEq, Repr

namespace Observation

/-- The status that a round writes after the one before. -/
def statusAfter (observation : Observation) (previous : Option Status) : Status :=
  nextStatus previous observation.counts observation.generation observation.now

/-- The topic that the counts call for. -/
def topic (observation : Observation) : String :=
  (verdict observation.counts).topic

end Observation

theorem phase_statusAfter (previous : Option Status) (observation : Observation) :
    (observation.statusAfter previous).phase = some (verdict observation.counts).phase := by
  rw [Observation.statusAfter, nextStatus, assess_eq]
  rfl

theorem generation_statusAfter (previous : Option Status) (observation : Observation) :
    (observation.statusAfter previous).generation = observation.generation := by
  rw [Observation.statusAfter, nextStatus, assess_eq]
  rfl

/-- The first round dates its condition with its own time. -/
theorem conditions_first (observation : Observation) :
    (observation.statusAfter none).conditions =
      [conditionFor observation.counts observation.now] := by
  rw [Observation.statusAfter, nextStatus, assess_eq]
  rfl

section Next

variable {status : Status} {earlier : Observation} {since : Instant}

/-- A condition in the place of one on the same topic has the time of the older one. -/
theorem conditionFor_after {observation : Observation} (same : earlier.topic = observation.topic)
    (now : Instant) :
    (conditionFor observation.counts now).after (conditionFor earlier.counts since) =
      conditionFor observation.counts since :=
  if_pos (Verdict.status_of_topic same)

/-- **A round takes the time over while the topic stays the same.** -/
theorem conditions_of_same (kept : status.conditions = [conditionFor earlier.counts since])
    {observation : Observation} (same : earlier.topic = observation.topic) :
    (observation.statusAfter (some status)).conditions =
      [conditionFor observation.counts since] := by
  have old : ((conditionFor earlier.counts since).topic ==
      (conditionFor observation.counts observation.now).topic) = true := beq_iff_eq.mpr same
  rw [Observation.statusAfter, nextStatus, assess_eq]
  simp only [kept, Status.setCondition]
  rw [List.filter_cons, if_pos old, List.filter_nil, putCondition, if_pos (beq_iff_eq.mp old),
    conditionFor_after same]

/-- **A round dates a new topic with its own time**, and drops the old condition. -/
theorem conditions_of_other (kept : status.conditions = [conditionFor earlier.counts since])
    {observation : Observation} (differs : earlier.topic ≠ observation.topic) :
    (observation.statusAfter (some status)).conditions =
      [conditionFor observation.counts observation.now] := by
  have other : ¬ ((conditionFor earlier.counts since).topic ==
      (conditionFor observation.counts observation.now).topic) = true := mt beq_iff_eq.mp differs
  rw [Observation.statusAfter, nextStatus, assess_eq]
  simp only [kept, Status.setCondition]
  rw [List.filter_cons, if_neg other, List.filter_nil, putCondition]

end Next

/-! ### Histories -/

section Histories

variable {rounds : ℕ}

/-- The status that a round writes: the first starts from none, every other one from the status of
the round before. -/
def statusAt (observations : Fin rounds → Observation) : (round : ℕ) → round < rounds → Status
  | 0, first => (observations ⟨0, first⟩).statusAfter none
  | round + 1, next =>
    (observations ⟨round + 1, next⟩).statusAfter
      (some (statusAt observations round (Nat.lt_of_succ_lt next)))

/-- The rounds from which on the topic has been the one of a round. -/
def streak (observations : Fin rounds → Observation) (round : Fin rounds) : Set (Fin rounds) :=
  {start | start ≤ round ∧ ∀ between, start ≤ between → between ≤ round →
    (observations between).topic = (observations round).topic}

/-- What comes no later than the next round is that round or comes no later than this one. -/
theorem eq_next_or_le {round : ℕ} (next : round + 1 < rounds) {other : Fin rounds}
    (before : other ≤ ⟨round + 1, next⟩) :
    other = ⟨round + 1, next⟩ ∨ other ≤ ⟨round, Nat.lt_of_succ_lt next⟩ := by
  rcases Nat.eq_or_lt_of_le (Fin.le_def.mp before) with same | less
  · exact Or.inl (Fin.ext same)
  · exact Or.inr (Fin.le_def.mpr (Nat.lt_succ_iff.mp less))

/-- A streak goes on while the topic stays the same. -/
theorem isLeast_streak_of_same {observations : Fin rounds → Observation} {round : ℕ}
    (next : round + 1 < rounds) {start : Fin rounds}
    (least : IsLeast (streak observations ⟨round, Nat.lt_of_succ_lt next⟩) start)
    (same : (observations ⟨round, Nat.lt_of_succ_lt next⟩).topic =
      (observations ⟨round + 1, next⟩).topic) :
    IsLeast (streak observations ⟨round + 1, next⟩) start := by
  obtain ⟨⟨before, all⟩, lowest⟩ := least
  have step : (⟨round, Nat.lt_of_succ_lt next⟩ : Fin rounds) ≤ ⟨round + 1, next⟩ :=
    Fin.le_def.mpr (Nat.le_succ round)
  refine ⟨⟨before.trans step, fun between after within => ?_⟩, fun other member => ?_⟩
  · rcases eq_next_or_le next within with rfl | within
    · rfl
    · exact (all between after within).trans same
  · rcases eq_next_or_le next member.1 with rfl | earlier
    · exact before.trans step
    · refine lowest ⟨earlier, fun between after within => ?_⟩
      exact (member.2 between after (within.trans step)).trans same.symm

/-- A new topic begins a streak. -/
theorem isLeast_streak_of_other {observations : Fin rounds → Observation} {round : ℕ}
    (next : round + 1 < rounds)
    (differs : (observations ⟨round, Nat.lt_of_succ_lt next⟩).topic ≠
      (observations ⟨round + 1, next⟩).topic) :
    IsLeast (streak observations ⟨round + 1, next⟩) ⟨round + 1, next⟩ := by
  refine ⟨⟨le_refl _, fun between after within => ?_⟩, fun other member => ?_⟩
  · rw [le_antisymm within after]
  · rcases eq_next_or_le next member.1 with rfl | earlier
    · exact le_refl _
    · exact absurd (member.2 _ earlier (Fin.le_def.mpr (Nat.le_succ round))) differs

/-- **The only condition is the one that the counts call for**, dated from the start of its
streak. -/
theorem conditions_statusAt (observations : Fin rounds → Observation) (round : ℕ)
    (inside : round < rounds) :
    ∃ start, IsLeast (streak observations ⟨round, inside⟩) start ∧
      (statusAt observations round inside).conditions =
        [conditionFor (observations ⟨round, inside⟩).counts (observations start).now] := by
  induction round with
  | zero =>
    refine ⟨⟨0, inside⟩, ⟨⟨le_refl _, fun between after within => ?_⟩, fun other _ => ?_⟩, ?_⟩
    · rw [le_antisymm within after]
    · exact Fin.le_def.mpr (Nat.zero_le _)
    · exact conditions_first _
  | succ round ih =>
    obtain ⟨start, least, kept⟩ := ih (Nat.lt_of_succ_lt inside)
    by_cases same : (observations ⟨round, Nat.lt_of_succ_lt inside⟩).topic =
        (observations ⟨round + 1, inside⟩).topic
    · exact ⟨start, isLeast_streak_of_same inside least same, conditions_of_same kept same⟩
    · exact ⟨⟨round + 1, inside⟩, isLeast_streak_of_other inside same,
        conditions_of_other kept same⟩

theorem phase_statusAt (observations : Fin rounds → Observation) (round : ℕ)
    (inside : round < rounds) :
    (statusAt observations round inside).phase =
      some (verdict (observations ⟨round, inside⟩).counts).phase := by
  cases round with
  | zero => exact phase_statusAfter _ _
  | succ round => exact phase_statusAfter _ _

theorem generation_statusAt (observations : Fin rounds → Observation) (round : ℕ)
    (inside : round < rounds) :
    (statusAt observations round inside).generation =
      (observations ⟨round, inside⟩).generation := by
  cases round with
  | zero => exact generation_statusAfter _ _
  | succ round => exact generation_statusAfter _ _

/-! ### The status of every round -/

/-- **The status of a round follows the history**: it says what the counts of this round call for,
and dates it from the first round of the streak. -/
structure Follows (observations : Fin rounds → Observation) (round : Fin rounds)
    (status : Status) (condition : Condition) : Prop where
  /-- There is exactly one condition. -/
  only : status.conditions = [condition]
  topic : condition.topic = (observations round).topic
  available : (status.phase = some .discovering ∧ condition.topic = "Available" ∧
    condition.status = "True") ↔ AllReady (observations round).counts
  progressing : (status.phase = some .discovering ∧ condition.topic = "Progressing" ∧
    condition.status = "False") ↔ SomeReady (observations round).counts
  degraded : (status.phase = some .failed ∧ condition.topic = "Degraded" ∧
    condition.status = "False") ↔
      ¬ AllReady (observations round).counts ∧ ¬ SomeReady (observations round).counts
  reason : condition.reason = some (verdict (observations round).counts).reason
  message : condition.message = some (countsMessage (observations round).counts)
  generation : status.generation = (observations round).generation
  changedAt : ∃ start, IsLeast (streak observations round) start ∧
    condition.changedAt = some (observations start).now

/-- **Every round of every history** writes one condition: the one that the counts of the round call
for, with the generation of the round, dated from the first round of the streak on its topic. -/
theorem statusAt_follows (observations : Fin rounds → Observation) (round : Fin rounds) :
    ∃ condition,
      Follows observations round (statusAt observations round round.isLt) condition := by
  obtain ⟨start, least, only⟩ := conditions_statusAt observations round round.isLt
  have phase := phase_statusAt observations round round.isLt
  refine ⟨_, only, rfl, ?_, ?_, ?_, rfl, rfl, generation_statusAt observations round round.isLt,
    start, least, rfl⟩
  · rw [phase, ← verdict_eq_ready_iff]
    exact Verdict.shown_ready_iff _
  · rw [phase, ← verdict_eq_progressing_iff]
    exact Verdict.shown_progressing_iff _
  · rw [phase, ← verdict_eq_ready_iff, ← verdict_eq_progressing_iff]
    exact Verdict.shown_degraded_iff _

end Histories

end NodeStorage.Discovery
