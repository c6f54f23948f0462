/-
**The name at the end of a path.**

The file name of a path is the last of its names when slashes and steps to the same directory behind
it are passed over, unless this is a step itself (`fileName?_eq_some_iff`). So a file name has no
slash in it.
-/

import NodeStorage.Host.Path
import NodeStorage.Proofs.Text.Split

namespace NodeStorage.Host

open Text

/-- What is passed over at the end of a path: slashes, and dots behind them. -/
inductive Passed : List Char → Prop
  | nothing : Passed []
  | slash {rest : List Char} : Passed rest → Passed ('/' :: rest)
  | here {rest : List Char} : Passed rest → Passed ('/' :: '.' :: rest)

/-- **The path ends with this name**: behind the last slash that is not passed over stands the name,
which is none of the steps `.` and `..`. -/
structure EndsIn (path name : List Char) : Prop where
  split : ∃ before after, path = before ++ name ++ after ∧
    (before = [] ∨ before.getLast? = some '/') ∧ Passed after
  given : name ≠ []
  free : '/' ∉ name
  notHere : name ≠ ['.']
  notParent : name ≠ ['.', '.']

/-- A step that leads nowhere. -/
def isIdle (step : List Char) : Bool :=
  step == [] || step == ['.']

theorem isIdle_iff {step : List Char} : isIdle step = true ↔ step = [] ∨ step = ['.'] := by
  simp [isIdle]

/-- What is passed over are steps that lead nowhere. -/
theorem passed_iff {chars : List Char} :
    Passed chars ↔
      ∃ idle : List (List Char), (∀ step ∈ idle, isIdle step = true) ∧
        chars = idle.flatMap ('/' :: ·) := by
  constructor
  · intro passed
    induction passed with
    | nothing => exact ⟨[], List.forall_mem_nil _, rfl⟩
    | slash _ ih =>
      obtain ⟨idle, each, rfl⟩ := ih
      exact ⟨[] :: idle, List.forall_mem_cons.mpr ⟨rfl, each⟩, rfl⟩
    | here _ ih =>
      obtain ⟨idle, each, rfl⟩ := ih
      exact ⟨['.'] :: idle, List.forall_mem_cons.mpr ⟨rfl, each⟩, rfl⟩
  · rintro ⟨idle, each, rfl⟩
    induction idle with
    | nil => exact .nothing
    | cons step idle ih =>
      obtain ⟨first, rest⟩ := List.forall_mem_cons.mp each
      rcases isIdle_iff.mp first with rfl | rfl
      · exact .slash (ih rest)
      · exact .here (ih rest)

/-- What ends with a slash, or is empty, are names with a slash behind each. -/
theorem ends_with_slash_iff {chars : List Char} :
    (chars = [] ∨ chars.getLast? = some '/') ↔
      ∃ names : List (List Char), (∀ name ∈ names, '/' ∉ name) ∧
        chars = names.flatMap (· ++ ['/']) := by
  constructor
  · rintro (rfl | last)
    · exact ⟨[], List.forall_mem_nil _, rfl⟩
    · obtain ⟨front, rfl⟩ := List.getLast?_eq_some_iff.mp last
      obtain ⟨given, free, joined⟩ := splitAt_eq_iff.mp (rfl : splitAt '/' front = _)
      refine ⟨splitAt '/' front, free, ?_⟩
      obtain ⟨early, late, parts⟩ := List.eq_nil_or_concat (splitAt '/' front) |>.resolve_left given
      rw [parts, List.concat_eq_append] at joined ⊢
      rw [intercalate_append] at joined
      rw [List.flatMap_append, List.flatMap_singleton, ← joined]
      simp
  · rintro ⟨names, -, rfl⟩
    rcases List.eq_nil_or_concat names with rfl | ⟨early, late, rfl⟩
    · exact Or.inl rfl
    · refine Or.inr (List.getLast?_eq_some_iff.mpr ⟨early.flatMap (· ++ ['/']) ++ late, ?_⟩)
      rw [List.concat_eq_append, List.flatMap_append, List.flatMap_singleton, List.append_assoc]

/-- The last step that leads somewhere. -/
def lastStep? (path : List Char) : Option (List Char) :=
  ((splitAt '/' path).filter fun step => !isIdle step).getLast?

theorem lastStep?_eq_some_iff {path name : List Char} :
    lastStep? path = some name ↔
      ∃ before after, splitAt '/' path = before ++ name :: after ∧ isIdle name = false ∧
        ∀ step ∈ after, isIdle step = true := by
  unfold lastStep?
  rw [List.getLast?_filter, List.find?_eq_some_iff_append]
  constructor
  · rintro ⟨leads, after, before, split, idle⟩
    refine ⟨before.reverse, after.reverse, ?_, by simpa using leads, fun step member => ?_⟩
    · rw [← List.reverse_reverse (splitAt '/' path), split]
      simp
    · simpa using idle step (List.mem_reverse.mp member)
  · rintro ⟨before, after, split, leads, idle⟩
    refine ⟨by simpa using leads, after.reverse, before.reverse, ?_, fun step member => ?_⟩
    · rw [split]
      simp
    · simpa using idle step (List.mem_reverse.mp member)

/-- **The last step that leads somewhere is the name behind which all is passed over.** -/
theorem lastStep?_eq_some_iff_split {path name : List Char} :
    lastStep? path = some name ↔
      (∃ before after, path = before ++ name ++ after ∧
        (before = [] ∨ before.getLast? = some '/') ∧ Passed after) ∧
      '/' ∉ name ∧ isIdle name = false := by
  rw [lastStep?_eq_some_iff]
  constructor
  · rintro ⟨before, after, parts, leads, idle⟩
    obtain ⟨-, free, joined⟩ := splitAt_eq_iff.mp parts
    rw [intercalate_append] at joined
    have beforeFree : ∀ step ∈ before, '/' ∉ step := fun step member =>
      free step (List.mem_append_left _ member)
    refine ⟨⟨_, _, joined.symm, ends_with_slash_iff.mpr ⟨before, beforeFree, rfl⟩,
      passed_iff.mpr ⟨after, idle, rfl⟩⟩, free name ?_, leads⟩
    exact List.mem_append_right _ List.mem_cons_self
  · rintro ⟨⟨front, back, rfl, front_ends, passed⟩, free, leads⟩
    obtain ⟨before, beforeFree, rfl⟩ := ends_with_slash_iff.mp front_ends
    obtain ⟨after, idle, rfl⟩ := passed_iff.mp passed
    refine ⟨before, after, splitAt_eq_iff.mpr ⟨by simp, ?_, intercalate_append ..⟩, leads, idle⟩
    intro step member
    rcases List.mem_append.mp member with early | late
    · exact beforeFree step early
    · rcases List.mem_cons.mp late with rfl | late
      · exact free
      · -- A step that leads nowhere has no slash in it.
        rcases isIdle_iff.mp (idle step late) with rfl | rfl <;> decide

theorem fileName?_eq (path : String) :
    fileName? path = ((lastStep? path.toList).map String.ofList).filter (· != "..") := by
  have idle (step : List Char) :
      (String.ofList step != "" && String.ofList step != ".") = !isIdle step := by
    rw [isIdle, Bool.not_or, Bool.eq_iff_iff]
    simp [← String.toList_inj]
  have kept : (steps path).filter (fun step => step != "" && step != ".") =
      ((splitAt '/' path.toList).filter fun step => !isIdle step).map String.ofList := by
    rw [steps, List.filter_map]
    exact congrArg _ (List.filter_congr fun step _ => idle step)
  unfold fileName? lastStep?
  rw [kept, List.getLast?_map]
  cases ((splitAt '/' path.toList).filter fun step => !isIdle step).getLast? with
  | none => rfl
  | some name =>
    by_cases parent : String.ofList name = ".." <;> simp [parent, Option.filter]

/-- **The file name of a path is the name that it ends with.** -/
theorem fileName?_eq_some_iff {path name : String} :
    fileName? path = some name ↔ EndsIn path.toList name.toList := by
  rw [fileName?_eq, Option.filter_eq_some_iff, Option.map_eq_some_iff]
  constructor
  · rintro ⟨⟨found, isLast, rfl⟩, notParent⟩
    obtain ⟨split, free, leads⟩ := lastStep?_eq_some_iff_split.mp isLast
    obtain ⟨given, notHere⟩ := not_or.mp (isIdle_iff.not.mp (by simpa using leads))
    rw [String.toList_ofList]
    refine ⟨split, given, free, notHere, fun parent => ?_⟩
    simp [parent] at notParent
  · intro ends
    have leads : isIdle name.toList = false := by
      simpa using isIdle_iff.not.mpr (not_or.mpr ⟨ends.given, ends.notHere⟩)
    refine ⟨⟨name.toList, lastStep?_eq_some_iff_split.mpr ⟨ends.split, ends.free, leads⟩,
      String.ofList_toList⟩, ?_⟩
    have notParent := ends.notParent
    simpa [← String.toList_inj] using notParent

end NodeStorage.Host
