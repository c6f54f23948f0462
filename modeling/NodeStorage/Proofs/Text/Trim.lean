/-
**Trimming leaves nothing to trim.**

White space around a text makes no difference to what trimming leaves of it (`trim_padded`). A text
that neither begins nor ends with white space is its own trimmed form (`trim_eq_self`), and every
trimmed text is such a text; so what counts as given once counts as given again, unchanged
(`present?_present?`). All texts but blank ones count as given (`present?_of_isBlank`).
-/

import Mathlib.Data.List.TakeWhile
import NodeStorage.Text.WhiteSpace

namespace NodeStorage.Text

/-- No white space on either end. -/
structure Bare (chars : List Char) : Prop where
  first : ∀ c ∈ chars.head?, isWhiteSpace c = false
  last : ∀ c ∈ chars.getLast?, isWhiteSpace c = false

theorem trimLeft_eq_self {drop : Char → Bool} {chars : List Char}
    (first : ∀ c ∈ chars.head?, drop c = false) : trimLeft drop chars = chars := by
  cases chars with
  | nil => rfl
  | cons c chars => exact List.dropWhile_cons_of_neg (by simp [first c rfl])

theorem trimRight_eq_self {drop : Char → Bool} {chars : List Char}
    (last : ∀ c ∈ chars.getLast?, drop c = false) : trimRight drop chars = chars := by
  have kept : trimLeft drop chars.reverse = chars.reverse :=
    trimLeft_eq_self (by rwa [List.head?_reverse])
  rw [trimRight, show chars.reverse.dropWhile drop = chars.reverse from kept, List.reverse_reverse]

/-- **A bare text is its own trimmed form.** -/
theorem trim_eq_self {chars : List Char} (bare : Bare chars) :
    trim (String.ofList chars) = String.ofList chars := by
  rw [trim, String.toList_ofList, trimLeft_eq_self bare.first, trimRight_eq_self bare.last]

theorem head?_trimLeft (drop : Char → Bool) (chars : List Char) :
    ∀ c ∈ (trimLeft drop chars).head?, drop c = false := by
  intro c member
  have kept := List.head?_dropWhile_not drop chars
  rw [show (chars.dropWhile drop).head? = some c from member] at kept
  exact kept

theorem getLast?_trimRight (drop : Char → Bool) (chars : List Char) :
    ∀ c ∈ (trimRight drop chars).getLast?, drop c = false := by
  intro c member
  rw [trimRight, List.getLast?_reverse] at member
  exact head?_trimLeft drop chars.reverse c member

theorem trimRight_prefix (drop : Char → Bool) (chars : List Char) :
    trimRight drop chars <+: chars := by
  have suffix := List.dropWhile_suffix (l := chars.reverse) drop
  rwa [← List.reverse_prefix, List.reverse_reverse] at suffix

/-- What is taken off the end. -/
theorem exists_trimRight_append (drop : Char → Bool) (chars : List Char) :
    ∃ dropped, chars = trimRight drop chars ++ dropped ∧ ∀ c ∈ dropped, drop c = true := by
  refine ⟨(chars.reverse.takeWhile drop).reverse, ?_, fun c member => ?_⟩
  · rw [trimRight, ← List.reverse_append, List.takeWhile_append_dropWhile, List.reverse_reverse]
  · exact List.mem_takeWhile_imp (List.mem_reverse.mp member)

/-- More to be taken off makes no difference to what is left. -/
theorem trimRight_append {drop : Char → Bool} {after : List Char}
    (dropped : ∀ c ∈ after, drop c = true) (chars : List Char) :
    trimRight drop (chars ++ after) = trimRight drop chars := by
  rw [trimRight, List.reverse_append, List.dropWhile_append_of_pos]
  · rfl
  · exact fun c member => dropped c (List.mem_reverse.mp member)

/-- What trimming leaves is bare. -/
theorem bare_trimmed (chars : List Char) :
    Bare (trimRight isWhiteSpace (trimLeft isWhiteSpace chars)) := by
  refine ⟨fun c member => ?_, getLast?_trimRight _ _⟩
  obtain ⟨rest, same⟩ := trimRight_prefix isWhiteSpace (trimLeft isWhiteSpace chars)
  apply head?_trimLeft isWhiteSpace chars c
  rw [← same, List.head?_append, member]
  rfl

/-- What stands between two visible characters is bare with them. -/
theorem bare_enclosed {first last : Char} (chars : List Char) (begins : isWhiteSpace first = false)
    (ends : isWhiteSpace last = false) : Bare (first :: chars ++ [last]) := by
  refine ⟨?_, ?_⟩
  · rintro c ⟨rfl⟩
    exact begins
  · intro c member
    rw [List.getLast?_concat] at member
    cases member
    exact ends

theorem isEmpty_ofList {chars : List Char} (given : chars ≠ []) :
    (String.ofList chars).isEmpty = false := by
  rw [Bool.eq_false_iff, ne_eq, String.isEmpty_iff]
  intro empty
  exact given (by rw [← String.toList_ofList (l := chars), empty]; rfl)

theorem present?_of_bare {chars : List Char} (bare : Bare chars) (given : chars ≠ []) :
    present? (some (String.ofList chars)) = some (String.ofList chars) := by
  simp [present?, trim_eq_self bare, isEmpty_ofList given]

/-- White space around a text makes no difference to its trimmed form. -/
theorem trim_padded {before after : String} (blankBefore : isBlank before = true)
    (blankAfter : isBlank after = true) (text : String) :
    trim (before ++ text ++ after) = trim text := by
  have first : trimLeft isWhiteSpace (before.toList ++ (text.toList ++ after.toList)) =
      trimLeft isWhiteSpace (text.toList ++ after.toList) :=
    List.dropWhile_append_of_pos (List.all_eq_true.mp blankBefore)
  have last := trimRight_append (List.all_eq_true.mp blankAfter)
  rw [trim, String.toList_append, String.toList_append, List.append_assoc, first, trimLeft,
    List.dropWhile_append]
  split
  · rename_i empty
    have nothing : trimLeft isWhiteSpace text.toList = [] := List.isEmpty_iff.mp empty
    have gone : after.toList.dropWhile isWhiteSpace = [] :=
      List.dropWhile_eq_nil_iff.mpr (List.all_eq_true.mp blankAfter)
    rw [trim, nothing, gone]
  · rw [last]
    rfl

theorem present?_around {before after : String} {chars : List Char}
    (blankBefore : isBlank before = true) (blankAfter : isBlank after = true) (bare : Bare chars)
    (given : chars ≠ []) :
    present? (some (before ++ String.ofList chars ++ after)) = some (String.ofList chars) := by
  simp [present?, trim_padded blankBefore blankAfter, trim_eq_self bare, isEmpty_ofList given]

/-- What counts as given is a bare text with something in it. -/
theorem exists_bare_of_present? {text : Option String} {value : String}
    (given : present? text = some value) :
    ∃ chars, value = String.ofList chars ∧ Bare chars ∧ chars ≠ [] := by
  cases text with
  | none => cases given
  | some raw =>
    simp only [present?] at given
    split at given
    · cases given
    · rename_i filled
      cases given
      refine ⟨_, rfl, bare_trimmed _, fun empty => filled ?_⟩
      rw [trim, empty]
      rfl

/-- **What is given is given again**, as it is. -/
theorem present?_present? {text : Option String} {value : String}
    (given : present? text = some value) : present? (some value) = some value := by
  obtain ⟨chars, rfl, bare, filled⟩ := exists_bare_of_present? given
  exact present?_of_bare bare filled

theorem present?_idem (text : Option String) : present? (present? text) = present? text := by
  cases given : present? text with
  | none => rfl
  | some value => exact present?_present? given

/-- **A text that is not blank counts as given**, in its trimmed form. -/
theorem present?_of_isBlank {text : String} (filled : isBlank text = false) :
    present? (some text) = some (trim text) := by
  have kept : trimRight isWhiteSpace (trimLeft isWhiteSpace text.toList) ≠ [] := by
    intro empty
    -- What the left trimming leaves is blank, and it begins with no white space: it is empty.
    have blank : ∀ c ∈ trimLeft isWhiteSpace text.toList, isWhiteSpace c = true := by
      intro c member
      have gone := List.dropWhile_eq_nil_iff.mp (List.reverse_eq_nil_iff.mp empty)
      exact gone c (List.mem_reverse.mpr member)
    have nothing : trimLeft isWhiteSpace text.toList = [] := by
      cases left : trimLeft isWhiteSpace text.toList with
      | nil => rfl
      | cons c rest =>
        have visible := head?_trimLeft isWhiteSpace text.toList c (by rw [left]; rfl)
        rw [blank c (by rw [left]; exact List.mem_cons_self)] at visible
        cases visible
    rw [isBlank, List.all_eq_true.mpr (List.dropWhile_eq_nil_iff.mp nothing)] at filled
    cases filled
  rw [present?, trim, isEmpty_ofList kept]
  rfl

end NodeStorage.Text
