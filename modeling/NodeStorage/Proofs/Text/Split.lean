/-
**The parts of a text, put together again.**

A text is cut at its separators and nowhere else: the parts hold no separator, and with separators
between them they are the text. There is one such list of parts, so this says all that the parts of
a text are (`splitAt_eq_iff`). The last of them is what stands behind the last separator
(`getLast?_splitAt_eq_some_iff`). For lists of parts put together, `intercalate_append` tells what
stands before and behind one of them.
-/

import Mathlib.Data.List.Basic
import NodeStorage.Text.Split

namespace NodeStorage.Text

/-- **The parts of a text between separators.** -/
structure IsSplit (separator : Char) (chars : List Char) (parts : List (List Char)) : Prop where
  /-- There is a part even of an empty text. -/
  given : parts ≠ []
  /-- No part has a separator in it. -/
  free : ∀ part ∈ parts, separator ∉ part
  /-- With separators between them the parts are the text. -/
  joined : [separator].intercalate parts = chars

theorem splitAt_eq_splitOn (separator : Char) (chars : List Char) :
    splitAt separator chars = chars.splitOn separator := by
  induction chars with
  | nil => rfl
  | cons c chars ih =>
    unfold splitAt
    unfold List.splitOn at ih ⊢
    rw [ih, List.splitOnP_cons_eq_if_modifyHead]
    by_cases same : c = separator
    · simp [same]
    · cases parts : chars.splitOnP (· == separator) with
      | nil => exact absurd parts (List.splitOnP_ne_nil _ _)
      | cons part parts => simp [same]

theorem splitAt_ne_nil (separator : Char) (chars : List Char) : splitAt separator chars ≠ [] := by
  rw [splitAt_eq_splitOn]
  exact List.splitOnP_ne_nil _ _

/-- A text without a separator is one part. -/
theorem splitAt_of_notMem {separator : Char} {chars : List Char} (free : separator ∉ chars) :
    splitAt separator chars = [chars] := by
  have alone : ([separator].intercalate [chars]).splitOn separator = [chars] :=
    List.splitOn_intercalate separator (by simpa using free) (by simp)
  rwa [List.intercalate_singleton, ← splitAt_eq_splitOn] at alone

/-- The first part ends at the first separator. -/
theorem splitAt_append {separator : Char} {part : List Char} (free : separator ∉ part)
    (rest : List Char) :
    splitAt separator (part ++ separator :: rest) = part :: splitAt separator rest := by
  induction part with
  | nil => simp [splitAt]
  | cons c part ih =>
    obtain ⟨other, free⟩ := not_or.mp (List.mem_cons.not.mp free)
    rw [List.cons_append, splitAt, if_neg (Ne.symm other), ih free]

theorem free_of_mem_splitAt {separator : Char} {chars part : List Char}
    (member : part ∈ splitAt separator chars) : separator ∉ part := by
  induction chars generalizing part with
  | nil =>
    rw [List.mem_singleton.mp member]
    exact List.not_mem_nil
  | cons c chars ih =>
    unfold splitAt at member
    by_cases same : c = separator
    · rw [if_pos same] at member
      rcases List.mem_cons.mp member with rfl | later
      · exact List.not_mem_nil
      · exact ih later
    · rw [if_neg same] at member
      cases parts : splitAt separator chars with
      | nil => exact absurd parts (splitAt_ne_nil _ _)
      | cons first rest =>
        rw [parts] at member ih
        rcases List.mem_cons.mp member with rfl | later
        · simpa [Ne.symm same] using ih List.mem_cons_self
        · exact ih (List.mem_cons_of_mem _ later)

/-- **The parts that are found are those between the separators.** -/
theorem splitAt_eq_iff {separator : Char} {chars : List Char} {parts : List (List Char)} :
    splitAt separator chars = parts ↔ IsSplit separator chars parts := by
  constructor
  · rintro rfl
    refine ⟨splitAt_ne_nil _ _, fun part member => free_of_mem_splitAt member, ?_⟩
    rw [splitAt_eq_splitOn, List.intercalate_splitOn]
  · rintro ⟨given, free, rfl⟩
    rw [splitAt_eq_splitOn, List.splitOn_intercalate separator free given]

/-! ### The last part -/

/-- The last part begins behind the last separator. -/
theorem splitAt_append_of_notMem {separator : Char} {part : List Char} (free : separator ∉ part)
    (front : List Char) :
    splitAt separator (front ++ separator :: part) = splitAt separator front ++ [part] := by
  induction front with
  | nil => simp [splitAt, splitAt_of_notMem free]
  | cons c front ih =>
    rw [List.cons_append, splitAt, splitAt, ih]
    split
    · rfl
    · cases parts : splitAt separator front with
      | nil => exact absurd parts (splitAt_ne_nil _ _)
      | cons first rest => rfl

theorem exists_append_of_mem {separator : Char} {chars : List Char} (member : separator ∈ chars) :
    ∃ front part, chars = front ++ separator :: part ∧ separator ∉ part := by
  obtain ⟨part, front, reversed, free⟩ :=
    List.eq_append_cons_of_mem (List.mem_reverse.mpr member)
  refine ⟨front.reverse, part.reverse, ?_, fun late => free (List.mem_reverse.mp late)⟩
  rw [← List.reverse_reverse chars, reversed]
  simp

/-- **The last part is what stands behind the last separator**, or everything where there is
none. -/
theorem getLast?_splitAt_eq_some_iff {separator : Char} {chars part : List Char} :
    (splitAt separator chars).getLast? = some part ↔
      separator ∉ part ∧ (chars = part ∨ ∃ front, chars = front ++ separator :: part) := by
  constructor
  · intro isLast
    refine ⟨free_of_mem_splitAt (List.mem_of_getLast? isLast), ?_⟩
    by_cases member : separator ∈ chars
    · obtain ⟨front, last, rfl, free⟩ := exists_append_of_mem member
      rw [splitAt_append_of_notMem free, List.getLast?_concat, Option.some.injEq] at isLast
      exact Or.inr ⟨front, by rw [isLast]⟩
    · rw [splitAt_of_notMem member, List.getLast?_singleton, Option.some.injEq] at isLast
      exact Or.inl isLast
  · rintro ⟨free, rfl | ⟨front, rfl⟩⟩
    · rw [splitAt_of_notMem free, List.getLast?_singleton]
    · rw [splitAt_append_of_notMem free, List.getLast?_concat]

theorem exists_getLast?_splitAt (separator : Char) (chars : List Char) :
    ∃ part, (splitAt separator chars).getLast? = some part :=
  ⟨_, List.getLast?_eq_some_getLast (splitAt_ne_nil separator chars)⟩

/-- What has no separator in it goes on the last part. -/
theorem getLast?_splitAt_append {separator : Char} {chars part more : List Char}
    (isLast : (splitAt separator chars).getLast? = some part) (free : separator ∉ more) :
    (splitAt separator (chars ++ more)).getLast? = some (part ++ more) := by
  obtain ⟨partFree, whole⟩ := getLast?_splitAt_eq_some_iff.mp isLast
  have bothFree : separator ∉ part ++ more := by simp [partFree, free]
  refine getLast?_splitAt_eq_some_iff.mpr ⟨bothFree, ?_⟩
  rcases whole with rfl | ⟨front, rfl⟩
  · exact Or.inl rfl
  · exact Or.inr ⟨front, by simp⟩

/-! ### Parts put together -/

/-- What stands before a part ends with a separator, what stands behind it begins with one. -/
theorem intercalate_append (separator : Char) (before : List (List Char)) (part : List Char)
    (after : List (List Char)) :
    [separator].intercalate (before ++ part :: after) =
      before.flatMap (· ++ [separator]) ++ part ++ after.flatMap (separator :: ·) := by
  induction before generalizing part with
  | nil =>
    induction after generalizing part with
    | nil => simp [List.intercalate_singleton]
    | cons next after ih =>
      have rest := ih next
      simp only [List.nil_append, List.flatMap_nil] at rest ⊢
      rw [List.intercalate_cons_cons, rest, List.flatMap_cons]
      simp
  | cons first before ih =>
    have rest := ih part
    cases before with
    | nil =>
      simp only [List.nil_append, List.flatMap_nil] at rest
      rw [List.singleton_append, List.intercalate_cons_cons, rest, List.flatMap_singleton]
      simp
    | cons next before =>
      rw [List.cons_append] at rest
      rw [List.cons_append, List.cons_append, List.intercalate_cons_cons, rest,
        List.flatMap_cons (x := first)]
      simp

end NodeStorage.Text
