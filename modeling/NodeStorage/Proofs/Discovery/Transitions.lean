/-
**Conditions that are set again and again.**

A status may have conditions on many topics, and they are set one by one, in any order and as often
as one likes. Where the topics are distinct at first they stay so, and each condition can be read
off from what has been said on its topic alone: the condition that was there at first, and the calls
on this topic, whatever was said on others in between. The last of these is what stands there; its
time is that of the first one in the run of equal statuses with which they end (`IsSince`).

* `topics_setConditions` — the topics, in the order in which they first came up.
* `filter_setConditions` — what is said on other topics leaves a condition alone.
* `isSince_setConditions` — every condition, from what has been said on its topic.
* `setConditions_dated` — **all of this, after any calls.**
-/

import Mathlib.Data.List.Basic
import NodeStorage.Proofs.Device.Duplicates
import NodeStorage.Proofs.Discovery.Repeats

namespace NodeStorage.Discovery

/-- The topics of the conditions. -/
def topicsOf (conditions : List Condition) : List String :=
  conditions.map Condition.topic

/-- The conditions on a topic. -/
def saidOn (topic : String) (conditions : List Condition) : List Condition :=
  conditions.filter fun condition => condition.topic == topic

/-- The status after conditions have been set one after another. -/
def Status.setConditions (status : Status) (calls : List Condition) : Status :=
  calls.foldl Status.setCondition status

/-! ### Runs of equal statuses -/

/-- What has been said ends with `last`, whose status it has had since `since`: with `since` begins
the run of equal statuses at the end. -/
def IsSince (said : List Condition) (since last : Condition) : Prop :=
  ∃ before run, said = before ++ run ∧ run.head? = some since ∧ run.getLast? = some last ∧
    (∀ condition ∈ run, condition.status = last.status) ∧
    ∀ condition ∈ before.getLast?, condition.status ≠ last.status

theorem IsSince.getLast? {said : List Condition} {since last : Condition}
    (isSince : IsSince said since last) : said.getLast? = some last := by
  obtain ⟨before, run, rfl, -, ends, -, -⟩ := isSince
  rw [List.getLast?_append, ends]
  rfl

/-- What is said first begins a run. -/
theorem isSince_singleton (condition : Condition) : IsSince [condition] condition condition := by
  refine ⟨[], [condition], rfl, rfl, rfl, fun other member => ?_, fun other none => by cases none⟩
  rw [List.mem_singleton.mp member]

/-- A run goes on while the status stays the same. -/
theorem IsSince.concat_of_same {said : List Condition} {since last condition : Condition}
    (isSince : IsSince said since last) (same : last.status = condition.status) :
    IsSince (said ++ [condition]) since condition := by
  obtain ⟨before, run, rfl, begins, -, equal, differs⟩ := isSince
  refine ⟨before, run ++ [condition], List.append_assoc _ _ _, ?_, List.getLast?_concat, ?_, ?_⟩
  · rw [List.head?_append, begins]
    rfl
  · intro other member
    rcases List.mem_append.mp member with earlier | new
    · exact (equal other earlier).trans same
    · rw [List.mem_singleton.mp new]
  · rwa [← same]

/-- Another status begins a run. -/
theorem IsSince.concat_of_other {said : List Condition} {since last condition : Condition}
    (isSince : IsSince said since last) (other : last.status ≠ condition.status) :
    IsSince (said ++ [condition]) condition condition := by
  refine ⟨said, [condition], rfl, rfl, rfl, fun new member => ?_, fun earlier isLast => ?_⟩
  · rw [List.mem_singleton.mp member]
  · rw [isSince.getLast?] at isLast
    cases isLast
    exact other

/-! ### What is said on a topic -/

theorem saidOn_append (topic : String) (earlier later : List Condition) :
    saidOn topic (earlier ++ later) = saidOn topic earlier ++ saidOn topic later :=
  List.filter_append ..

theorem saidOn_singleton (condition : Condition) :
    saidOn condition.topic [condition] = [condition] :=
  List.filter_cons_of_pos (beq_self_eq_true _)

/-- Nothing is said on a topic that does not come up. -/
theorem saidOn_eq_nil {topic : String} {conditions : List Condition}
    (unknown : topic ∉ topicsOf conditions) : saidOn topic conditions = [] := by
  refine List.filter_eq_nil_iff.mpr fun condition member same => unknown ?_
  rw [← eq_of_beq same]
  exact List.mem_map_of_mem member

/-- One thing is said on each of several distinct topics. -/
theorem saidOn_of_mem {conditions : List Condition} (distinct : (topicsOf conditions).Nodup)
    {condition : Condition} (member : condition ∈ conditions) :
    saidOn condition.topic conditions = [condition] := by
  obtain ⟨earlier, later, rfl⟩ := List.append_of_mem member
  have apart : condition.topic ∉ topicsOf earlier ++ topicsOf later := by
    have split : topicsOf (earlier ++ condition :: later) =
        topicsOf earlier ++ condition.topic :: topicsOf later := List.map_append
    rw [split] at distinct
    exact (List.nodup_cons.mp (List.perm_middle.nodup_iff.mp distinct)).1
  obtain ⟨before, after⟩ := not_or.mp (List.mem_append.not.mp apart)
  rw [← List.singleton_append, saidOn_append, saidOn_append, saidOn_eq_nil before,
    saidOn_eq_nil after, saidOn_singleton]
  rfl

/-! ### One more condition -/

theorem topic_after (condition previous : Condition) :
    (condition.after previous).topic = condition.topic := by
  rw [Condition.after]
  split <;> rfl

/-- A condition takes a new topic to the end, and nothing else changes about the topics. -/
theorem topicsOf_putCondition (condition : Condition) (conditions : List Condition) :
    topicsOf (putCondition condition conditions) =
      if condition.topic ∈ topicsOf conditions then topicsOf conditions
      else topicsOf conditions ++ [condition.topic] := by
  induction conditions with
  | nil => rfl
  | cons previous rest ih =>
    by_cases same : previous.topic = condition.topic
    · rw [putCondition, if_pos same, topicsOf, topicsOf, List.map_cons, List.map_cons, topic_after,
        same, if_pos List.mem_cons_self]
    · have later : condition.topic ∈ topicsOf (previous :: rest) ↔
          condition.topic ∈ topicsOf rest :=
        List.mem_cons.trans (or_iff_right fun first => same first.symm)
      have rest_eq : topicsOf (putCondition condition (previous :: rest)) =
          previous.topic :: topicsOf (putCondition condition rest) := by
        rw [putCondition, if_neg same]
        rfl
      rw [rest_eq, ih]
      simp only [later]
      split <;> rfl

/-- **What is asked about other topics** has the same answer as before. -/
theorem filter_putCondition {wanted : String → Bool} {condition : Condition}
    (other : wanted condition.topic = false) (conditions : List Condition) :
    (putCondition condition conditions).filter (fun kept => wanted kept.topic) =
      conditions.filter fun kept => wanted kept.topic := by
  induction conditions with
  | nil => exact List.filter_cons_of_neg (by rw [other]; exact Bool.false_ne_true)
  | cons previous rest ih =>
    by_cases same : previous.topic = condition.topic
    · have unwanted : wanted previous.topic = false := same ▸ other
      rw [putCondition, if_pos same, List.filter_cons, List.filter_cons, topic_after, other,
        unwanted, if_neg Bool.false_ne_true, if_neg Bool.false_ne_true]
    · rw [putCondition, if_neg same, List.filter_cons, List.filter_cons, ih]

/-- Afterwards there is the new condition, dated by the one that it replaces, and the conditions on
other topics. -/
theorem mem_putCondition {condition kept : Condition} {conditions : List Condition}
    (distinct : (topicsOf conditions).Nodup) (member : kept ∈ putCondition condition conditions) :
    (kept ∈ conditions ∧ kept.topic ≠ condition.topic) ∨
      (kept = condition ∧ condition.topic ∉ topicsOf conditions) ∨
      ∃ previous ∈ conditions, previous.topic = condition.topic ∧
        kept = condition.after previous := by
  induction conditions with
  | nil => exact Or.inr (Or.inl ⟨List.mem_singleton.mp member, List.not_mem_nil⟩)
  | cons previous rest ih =>
    obtain ⟨fresh, restDistinct⟩ := List.nodup_cons.mp distinct
    by_cases same : previous.topic = condition.topic
    · rw [putCondition, if_pos same] at member
      rcases List.mem_cons.mp member with rfl | later
      · exact Or.inr (Or.inr ⟨previous, List.mem_cons_self, same, rfl⟩)
      · refine Or.inl ⟨List.mem_cons_of_mem _ later, fun again => fresh ?_⟩
        rw [same, ← again]
        exact List.mem_map_of_mem later
    · rw [putCondition, if_neg same] at member
      rcases List.mem_cons.mp member with rfl | later
      · exact Or.inl ⟨List.mem_cons_self, same⟩
      · rcases ih restDistinct later with ⟨there, differs⟩ | ⟨new, unknown⟩ | ⟨old, there, replaced⟩
        · exact Or.inl ⟨List.mem_cons_of_mem _ there, differs⟩
        · refine Or.inr (Or.inl ⟨new, fun known => ?_⟩)
          rcases List.mem_cons.mp known with first | known
          · exact same first.symm
          · exact unknown known
        · exact Or.inr (Or.inr ⟨old, List.mem_cons_of_mem _ there, replaced⟩)

/-! ### Any number of conditions -/

section Calls

variable (status : Status) (calls : List Condition)

theorem setConditions_concat (call : Condition) :
    status.setConditions (calls ++ [call]) = (status.setConditions calls).setCondition call := by
  rw [Status.setConditions, List.foldl_append]
  rfl

theorem conditions_concat (call : Condition) :
    (status.setConditions (calls ++ [call])).conditions =
      putCondition call (status.setConditions calls).conditions := by
  rw [setConditions_concat]
  rfl

/-- **What is said on other topics leaves a condition alone.** -/
theorem filter_setConditions (wanted : String → Bool)
    (others : ∀ call ∈ calls, wanted call.topic = false) :
    ((status.setConditions calls).conditions.filter fun kept => wanted kept.topic) =
      status.conditions.filter fun kept => wanted kept.topic := by
  induction calls using List.reverseRecOn with
  | nil => rfl
  | append_singleton calls call ih =>
    obtain ⟨earlier, last⟩ := List.forall_mem_append.mp others
    rw [conditions_concat, filter_putCondition (last call (List.mem_singleton_self _)), ih earlier]

/-- **The topics** are those from the beginning and then new ones, in the order of the first calls
on them. -/
theorem topics_setConditions :
    topicsOf (status.setConditions calls).conditions = topicsOf status.conditions ++
      ((topicsOf calls).filter fun topic => topic ∉ topicsOf status.conditions).eraseDups := by
  induction calls using List.reverseRecOn with
  | nil => exact (List.append_nil _).symm
  | append_singleton calls call ih =>
    have more : topicsOf (calls ++ [call]) = topicsOf calls ++ [call.topic] := List.map_append
    rw [conditions_concat, topicsOf_putCondition, ih, more, List.filter_append]
    by_cases old : call.topic ∈ topicsOf status.conditions
    · rw [if_pos (List.mem_append_left _ old), List.filter_cons_of_neg (by simpa using old),
        List.filter_nil, List.append_nil]
    · have known : call.topic ∈ topicsOf status.conditions ++
          ((topicsOf calls).filter fun topic => topic ∉ topicsOf status.conditions).eraseDups ↔
          call.topic ∈ (topicsOf calls).filter fun topic => topic ∉ topicsOf status.conditions := by
        rw [List.mem_append, or_iff_right old, List.mem_eraseDups]
      rw [List.filter_cons_of_pos (by simpa using old), List.filter_nil, eraseDups_concat]
      simp only [known]
      split
      · rfl
      · exact List.append_assoc _ _ _

/-- A topic has a condition if it had one or one has been set. -/
theorem mem_topics_setConditions {topic : String} :
    topic ∈ topicsOf (status.setConditions calls).conditions ↔
      topic ∈ topicsOf status.conditions ∨ topic ∈ topicsOf calls := by
  rw [topics_setConditions, List.mem_append, List.mem_eraseDups, List.mem_filter,
    decide_eq_true_iff]
  by_cases old : topic ∈ topicsOf status.conditions
  · exact iff_of_true (Or.inl old) (Or.inl old)
  · rw [or_iff_right old, or_iff_right old, and_iff_left old]

variable {status} (distinct : (topicsOf status.conditions).Nodup)

include distinct

theorem distinct_setConditions :
    (topicsOf (status.setConditions calls).conditions).Nodup := by
  induction calls using List.reverseRecOn with
  | nil => exact distinct
  | append_singleton calls call ih =>
    rw [conditions_concat, topicsOf_putCondition]
    split
    · exact ih
    · rename_i fresh
      exact (List.perm_append_singleton _ _).nodup_iff.mpr (List.nodup_cons.mpr ⟨fresh, ih⟩)

/-- **A condition is the last thing said on its topic**, with the time since which this has been
said. -/
theorem isSince_setConditions {kept : Condition}
    (member : kept ∈ (status.setConditions calls).conditions) :
    ∃ since last, IsSince (saidOn kept.topic (status.conditions ++ calls)) since last ∧
      kept = last.dated since.changedAt := by
  induction calls using List.reverseRecOn generalizing kept with
  | nil =>
    rw [List.append_nil, saidOn_of_mem distinct member]
    exact ⟨kept, kept, isSince_singleton kept, rfl⟩
  | append_singleton calls call ih =>
    rw [conditions_concat] at member
    rw [← List.append_assoc, saidOn_append]
    rcases mem_putCondition (distinct_setConditions calls distinct) member with
      ⟨there, differs⟩ | ⟨rfl, unknown⟩ | ⟨previous, there, same, rfl⟩
    · have apart : kept.topic ∉ topicsOf [call] := by simpa [topicsOf] using differs
      rw [saidOn_eq_nil apart, List.append_nil]
      exact ih there
    · have nothing : kept.topic ∉ topicsOf (status.conditions ++ calls) := by
        rw [topicsOf, List.map_append, List.mem_append]
        exact fun known => unknown ((mem_topics_setConditions status calls).mpr known)
      rw [saidOn_eq_nil nothing, List.nil_append, saidOn_singleton]
      exact ⟨kept, kept, isSince_singleton kept, rfl⟩
    · obtain ⟨since, last, isSince, rfl⟩ := ih there
      have onTopic : last.topic = call.topic := same
      rw [topic_after, saidOn_singleton, ← onTopic]
      by_cases equal : last.status = call.status
      · exact ⟨since, call, isSince.concat_of_same equal, if_pos equal⟩
      · exact ⟨call, call, isSince.concat_of_other equal, if_neg equal⟩

end Calls

/-- **What has become of a status** once conditions have been set one after another. -/
structure SetInTurn (status : Status) (calls : List Condition) (after : Status) : Prop where
  distinct : (topicsOf after.conditions).Nodup
  /-- New topics come behind the ones from the beginning, in the order of the first calls. -/
  order : topicsOf after.conditions = topicsOf status.conditions ++
    ((topicsOf calls).filter fun topic => topic ∉ topicsOf status.conditions).eraseDups
  untouched : (after.conditions.filter fun kept => kept.topic ∉ topicsOf calls) =
    status.conditions.filter fun kept => kept.topic ∉ topicsOf calls
  /-- The last call on a topic stands there, dated from where its status began. -/
  called : ∀ topic ∈ topicsOf calls, ∃ kept ∈ after.conditions, ∃ since last,
    kept.topic = topic ∧ (saidOn topic calls).getLast? = some last ∧
    kept.status = last.status ∧ kept.reason = last.reason ∧ kept.message = last.message ∧
    IsSince (saidOn topic (status.conditions ++ calls)) since last ∧
    kept.changedAt = since.changedAt
  phase : after.phase = status.phase
  generation : after.generation = status.generation

/-- The last thing said is a call, if there is one. -/
theorem getLast?_saidOn {topic : String} {calls : List Condition} (set : topic ∈ topicsOf calls)
    (first : List Condition) :
    (saidOn topic (first ++ calls)).getLast? = (saidOn topic calls).getLast? := by
  obtain ⟨call, member, rfl⟩ := List.mem_map.mp set
  have some_said : saidOn call.topic calls ≠ [] :=
    List.ne_nil_of_mem (List.mem_filter.mpr ⟨member, beq_self_eq_true _⟩)
  rw [saidOn_append, List.getLast?_append_of_ne_nil _ some_said]

theorem phase_setConditions (status : Status) (calls : List Condition) :
    (status.setConditions calls).phase = status.phase ∧
      (status.setConditions calls).generation = status.generation := by
  induction calls using List.reverseRecOn with
  | nil => exact ⟨rfl, rfl⟩
  | append_singleton calls call ih =>
    rw [setConditions_concat]
    exact ih

/-- **Conditions that are set keep their topics distinct and are dated by their transitions**,
whatever is set, in which order and how often. -/
theorem setConditions_dated (status : Status) (distinct : (topicsOf status.conditions).Nodup)
    (calls : List Condition) : SetInTurn status calls (status.setConditions calls) where
  distinct := distinct_setConditions calls distinct
  order := topics_setConditions status calls
  untouched := by
    refine filter_setConditions status calls (fun topic => topic ∉ topicsOf calls) ?_
    intro call member
    exact decide_eq_false (not_not_intro (List.mem_map_of_mem member))
  called := by
    intro topic set
    obtain ⟨kept, member, rfl⟩ :=
      List.mem_map.mp ((mem_topics_setConditions status calls).mpr (Or.inr set))
    obtain ⟨since, last, isSince, dated⟩ := isSince_setConditions calls distinct member
    have isLast := isSince.getLast?
    rw [getLast?_saidOn set] at isLast
    refine ⟨kept, member, since, last, rfl, isLast, ?_, ?_, ?_, isSince, ?_⟩ <;> rw [dated] <;> rfl
  phase := (phase_setConditions status calls).1
  generation := (phase_setConditions status calls).2

/-- Discovery is available and, on another topic, not progressing. -/
def availableAtFirst : Status where
  phase := some .discovering
  conditions :=
    [⟨"Available", "True", some ⟨100, 0⟩, none, none⟩,
     ⟨"Progressing", "False", some ⟨200, 0⟩, none, some "done"⟩]
  generation := some 7

/-- It fails, works again, and goes on working, while it is found degraded twice. -/
def failureAndRecovery : List Condition :=
  [⟨"Degraded", "True", some ⟨300, 0⟩, none, none⟩,
   ⟨"Available", "False", some ⟨400, 0⟩, some "NoPods", none⟩,
   ⟨"Available", "True", some ⟨500, 0⟩, none, none⟩,
   ⟨"Degraded", "True", some ⟨600, 0⟩, some "StillSo", none⟩,
   ⟨"Available", "True", some ⟨700, 0⟩, some "AllPods", none⟩]

/-- The condition of the beginning does not date the recovery, which is dated by its first call. -/
theorem recovery_dated :
    (topicsOf availableAtFirst.conditions).Nodup ∧
      SetInTurn availableAtFirst failureAndRecovery
        { availableAtFirst with
          conditions :=
            [⟨"Available", "True", some ⟨500, 0⟩, some "AllPods", none⟩,
             ⟨"Progressing", "False", some ⟨200, 0⟩, none, some "done"⟩,
             ⟨"Degraded", "True", some ⟨300, 0⟩, some "StillSo", none⟩] } :=
  ⟨by decide, setConditions_dated availableAtFirst (by decide) failureAndRecovery⟩

end NodeStorage.Discovery
