/-
**Reading words without case.**

Most characters of a pattern stand for themselves, and behind `(?i)` for all their spellings. So a
text of such characters is read letter by letter (`readParts_word`), and a set of the ASCII digits,
repeated, may follow.

* `parse_word` — `(?i)` and a word;
* `parse_numbered` — `(?i)`, a word and `[0-9]+`.

Both need the word to be short enough for the limit on the size of patterns.
-/

import NodeStorage.Pattern.Reader

namespace NodeStorage.Pattern

/-! ### Single steps -/

@[simp] theorem Position.modes_add (position : Position) (part : Part) :
    (position.add part).modes = position.modes := rfl

theorem skip_of_not_verbose {modes : Modes} (all : modes.verbose = false) (chars : List Char) :
    skip modes chars = chars := by
  cases chars with
  | nil => rw [skip]
  | cons c rest =>
    rw [skip, all]
    rfl

theorem checkedSet_of_unicode {modes : Modes} (wide : modes.unicode = true) (set : CharSet) :
    checkedSet modes set = .ok set := by
  rw [checkedSet, wide]
  rfl

/-- The character has no meaning of its own in patterns. -/
def IsOrdinary (c : Char) : Prop :=
  c ∉ ['(', ')', '|', '[', '?', '*', '+', '{', '\\', '.', '^', '$']

instance (c : Char) : Decidable (IsOrdinary c) :=
  inferInstanceAs (Decidable (¬ _))

theorem readPart_of_isOrdinary {c : Char} (ordinary : IsOrdinary c) (position : Position)
    (rest : List Char) :
    readPart position c rest =
      .ok (position.add (.pattern (charPattern position.modes c) 0), rest) := by
  simp only [IsOrdinary, List.mem_cons, List.not_mem_nil, or_false, not_or] at ordinary
  simp only [readPart, ordinary, if_false]

theorem readSetMember_of_ne {c : Char} (plain : c ≠ '\\') (modes : Modes) (rest : List Char) :
    readSetMember modes (c :: rest) = .ok (.char c false, rest) := by
  rw [readSetMember]
  intro escaped
  exact absurd escaped plain

theorem readSetRange_of_le {modes : Modes} (all : modes.verbose = false)
    (wide : modes.unicode = true) {low high : Char} (ordered : low ≤ high) (plain : low ≠ '\\')
    (bounds : high ∉ ['\\', '-', ']']) (rest : List Char) :
    readSetRange modes (low :: '-' :: high :: rest) =
      .ok (.range low.toNat high.toNat, rest) := by
  simp only [List.mem_cons, List.not_mem_nil, or_false, not_or] at bounds
  obtain ⟨noEscape, noHyphen, noEnd⟩ := bounds
  have inOrder : ¬ high < low := Char.not_lt.mpr ordered
  rw [readSetRange, readSetMember_of_ne plain]
  simp only [bind, Except.bind, skip_of_not_verbose all, List.head?_cons, Option.some.injEq, noEnd,
    noHyphen, or_self, if_false, readSetMember_of_ne noEscape, Member.bound, inOrder, wide]
  rfl

theorem readSet_range {modes : Modes} (all : modes.verbose = false) {c : Char}
    (starts : c ∉ ['[', ']', '&', '-', '~']) {rest left : List Char} {set : CharSet}
    (range : readSetRange modes (c :: rest) = .ok (set, left)) (fuel : Nat) (current : OpenSet)
    (outer : List OpenSet) :
    readSet modes (fuel + 1) current outer (c :: rest) =
      readSet modes fuel (current.add set) outer left := by
  simp only [List.mem_cons, List.not_mem_nil, or_false, not_or] at starts
  rw [readSet, skip_of_not_verbose all]
  split
  all_goals simp_all

theorem readSet_end {modes : Modes} (all : modes.verbose = false) (fuel : Nat)
    (current : OpenSet) (rest : List Char) :
    readSet modes (fuel + 1) current [] (']' :: rest) =
      .ok (current.close modes, current.depth + 1, rest) := by
  rw [readSet, skip_of_not_verbose all]
  rfl

/-! ### Words -/

/-- The modes behind `(?i)`. -/
def ignoringCase : Modes :=
  { ignoreCase := true }

/-- Where the reader stands behind `(?i)`. -/
def behindMark : Position :=
  ⟨ignoringCase, [], [.modes], [], []⟩

theorem readParts_mark (fuel : Nat) (rest : List Char) :
    readParts (fuel + 1) ⟨{}, [], [], [], []⟩ ("(?i)".toList ++ rest) =
      readParts fuel behindMark rest := by
  have group : readGroup ⟨{}, [], [], [], []⟩ ('?' :: 'i' :: ')' :: rest) =
      .ok (behindMark, rest) := by
    rw [readGroup, skip_of_not_verbose rfl]
    rfl
  rw [show "(?i)".toList ++ rest = '(' :: '?' :: 'i' :: ')' :: rest from rfl, readParts,
    skip_of_not_verbose rfl]
  simp only [readPart, if_true, group]
  rfl

theorem readParts_nil (fuel : Nat) (position : Position) :
    readParts fuel position [] = .ok position := by
  cases fuel with
  | zero => rfl
  | succ fuel => rw [readParts, skip]

/-- The position behind a word, each of whose letters is a part. -/
def Position.write (position : Position) (word : List Char) : Position :=
  { position with
    parts :=
      (word.map fun c => .pattern (charPattern position.modes c) 0).reverse ++ position.parts }

/-- **A word is read letter by letter.** -/
theorem readParts_word {word : List Char} (ordinary : ∀ c ∈ word, IsOrdinary c)
    (position : Position) (all : position.modes.verbose = false) (fuel : Nat) (rest : List Char) :
    readParts (fuel + word.length) position (word ++ rest) =
      readParts fuel (position.write word) rest := by
  -- Letters change no modes, so the next one is read in the same modes as this one.
  induction word generalizing position with
  | nil => rfl
  | cons c word ih =>
    rw [List.length_cons, ← Nat.add_assoc, List.cons_append, readParts, skip_of_not_verbose all]
    simp only [readPart_of_isOrdinary (ordinary c List.mem_cons_self) position]
    refine (ih (fun d member => ordinary d (List.mem_cons_of_mem c member))
      (position.add (.pattern (charPattern position.modes c) 0)) all).trans ?_
    rw [Position.write, Position.write, List.map_cons, List.reverse_cons, List.append_assoc]
    rfl

/-! ### Digits -/

/-- The ASCII digits in all their spellings, which are no others. -/
def anyDigit : CharSet :=
  .anyCase (.union .empty (.range 0x30 0x39))

theorem readPart_digits {position : Position} (modes : position.modes = ignoringCase)
    (rest : List Char) :
    readPart position '[' ("0-9]".toList ++ rest) =
      .ok (position.add (.pattern (.one anyDigit) 1), rest) := by
  have spelled : "0-9]".toList ++ rest = '0' :: '-' :: '9' :: ']' :: rest := rfl
  have all : ignoringCase.verbose = false := rfl
  have wide : ignoringCase.unicode = true := rfl
  have opened : openSet ignoringCase ('0' :: '-' :: '9' :: ']' :: rest) =
      (⟨false, none, .empty, 0⟩, '0' :: '-' :: '9' :: ']' :: rest) := by
    simp only [openSet, skip_of_not_verbose all]
    rfl
  have range : readSetRange ignoringCase ('0' :: '-' :: '9' :: ']' :: rest) =
      .ok (.range 0x30 0x39, ']' :: rest) :=
    readSetRange_of_le all wide (by decide) (by decide) (by decide) (']' :: rest)
  have read (fuel : Nat) : readSet ignoringCase (fuel + 2) ⟨false, none, .empty, 0⟩ []
      ('0' :: '-' :: '9' :: ']' :: rest) = .ok (anyDigit, 1, rest) := by
    rw [readSet_range all (by decide) range, readSet_end all]
    rfl
  simp only [readPart, modes, spelled, opened, List.length_cons, Char.reduceEq, if_false, if_true,
    read, bind, Except.bind, checkedSet_of_unicode wide]
  rfl

/-- The digits may be repeated. -/
theorem readParts_digits (position : Position) (modes : position.modes = ignoringCase)
    (fuel : Nat) :
    readParts (fuel + 3) position "[0-9]+".toList =
      .ok (position.add (.pattern (.repeated 1 none (.one anyDigit)) 2)) := by
  have all : position.modes.verbose = false := by
    rw [modes]
    rfl
  have digits : readPart position '[' ['0', '-', '9', ']', '+'] =
      .ok (position.add (.pattern (.one anyDigit) 1), ['+']) := readPart_digits modes ['+']
  have more : readPart (position.add (.pattern (.one anyDigit) 1)) '+' [] =
      .ok (position.add (.pattern (.repeated 1 none (.one anyDigit)) 2), []) := by
    simp only [readPart, Char.reduceEq, if_false, if_true]
    rw [afterGreed, Position.modes_add, skip_of_not_verbose all]
    rfl
  rw [show "[0-9]+".toList = '[' :: ['0', '-', '9', ']', '+'] from rfl, readParts,
    skip_of_not_verbose all]
  simp only [digits, bind, Except.bind]
  rw [readParts, Position.modes_add, skip_of_not_verbose all]
  simp only [more, bind, Except.bind]
  rw [readParts, Position.modes_add, skip_of_not_verbose all]

/-! ### Whole patterns -/

theorem deepest_le {parts : List Part} {levels : Nat}
    (flat : ∀ part ∈ parts, part.depth ≤ levels) : deepest parts ≤ levels := by
  -- The fold starts at zero, but goes on from the greatest depth so far.
  have bound (start : Nat) (low : start ≤ levels) :
      parts.foldl (fun depth part => max depth part.depth) start ≤ levels := by
    induction parts generalizing start with
    | nil => exact low
    | cons part parts ih =>
      exact ih (fun other member => flat other (List.mem_cons_of_mem part member)) _
        (Nat.max_le.mpr ⟨low, flat part List.mem_cons_self⟩)
  exact bound 0 (Nat.zero_le levels)

theorem toPattern_joined (parts : List Part) :
    (joined parts).toPattern = inOrder (parts.map Part.toPattern) := by
  match parts with
  | [] => rfl
  | [_] => rfl
  | _ :: _ :: _ => rfl

theorem depth_joined_le {parts : List Part} {levels : Nat}
    (flat : ∀ part ∈ parts, part.depth ≤ levels) : (joined parts).depth ≤ levels + 1 := by
  match parts with
  | [] => exact Nat.zero_le _
  | [only] => exact Nat.le_succ_of_le (flat only List.mem_cons_self)
  | _ :: _ :: _ => exact Nat.succ_le_succ (deepest_le flat)

theorem size_inOrder_le {most : Nat} {patterns : List Pattern}
    (small : ∀ pattern ∈ patterns, pattern.size ≤ most) :
    (inOrder patterns).size ≤ most * patterns.length + 1 := by
  match patterns with
  | [] => exact Nat.le_refl 1
  | [only] =>
    rw [List.length_singleton, Nat.mul_one]
    exact Nat.le_succ_of_le (small only List.mem_cons_self)
  | first :: second :: rest =>
    obtain ⟨here, there⟩ := List.forall_mem_cons.mp small
    have later := size_inOrder_le there
    have whole : (inOrder (first :: second :: rest)).size =
        first.size + (inOrder (second :: rest)).size := rfl
    rw [whole, List.length_cons, Nat.mul_succ]
    omega

/-- A part that is hardly nested and takes few steps. -/
def Part.IsSlight (part : Part) : Prop :=
  part.depth ≤ 2 ∧ part.toPattern.size ≤ 3

/-- Slight parts keep the limits, unless there are very many. -/
theorem limits_of_isSlight {parts : List Part} (slight : ∀ part ∈ parts, part.IsSlight)
    (few : parts.length ≤ 100001) :
    (joined parts).depth ≤ depthLimit ∧ (joined parts).toPattern.size ≤ sizeLimit := by
  have depth := depth_joined_le fun part member => (slight part member).1
  have small : ∀ pattern ∈ parts.map Part.toPattern, pattern.size ≤ 3 :=
    List.forall_mem_map.mpr fun part member => (slight part member).2
  have size := size_inOrder_le small
  rw [List.length_map] at size
  rw [toPattern_joined, depthLimit, sizeLimit]
  omega

/-- A text behind `(?i)` is a pattern if it leaves no group open, has no alternatives, and has
slight parts that are not too many for the limits. -/
theorem parse_mark {rest : String} {parts : List Part}
    (read : readParts (rest.toList.length + 4) behindMark rest.toList =
      .ok { behindMark with parts := (.modes :: parts).reverse })
    (slight : ∀ part ∈ parts, part.IsSlight) (few : parts.length ≤ 100000) :
    parse ("(?i)" ++ rest) = .ok (inOrder (.empty :: parts.map Part.toPattern)) := by
  have length : ("(?i)" ++ rest).toList.length + 1 = rest.toList.length + 4 + 1 := by
    rw [String.toList_append, List.length_append, Nat.add_comm "(?i)".toList.length]
    rfl
  have closed : behindMark.around.isEmpty = true := rfl
  have whole : Position.close { behindMark with parts := (.modes :: parts).reverse } =
      joined (.modes :: parts) := by
    rw [Position.close, List.reverse_reverse]
    rfl
  have pattern : (joined (.modes :: parts)).toPattern =
      inOrder (.empty :: parts.map Part.toPattern) := toPattern_joined (.modes :: parts)
  have mark : Part.modes.IsSlight := ⟨Nat.zero_le 2, Nat.le_add_left 1 2⟩
  obtain ⟨depth, size⟩ :=
    limits_of_isSlight (List.forall_mem_cons.mpr ⟨mark, slight⟩) (Nat.succ_le_succ few)
  rw [pattern] at size
  rw [parse, length, String.toList_append, readParts_mark, read]
  simp only [bind, Except.bind, closed, whole, pattern, Bool.not_true, Bool.false_eq_true,
    gt_iff_lt, Nat.not_lt.mpr depth, Nat.not_lt.mpr size, if_false]
  rfl

/-- The parts that a word without case is read as. -/
def letters (word : List Char) : List Part :=
  word.map fun c => .pattern (charPattern ignoringCase c) 0

theorem isSlight_of_mem_letters {word : List Char} {part : Part} (member : part ∈ letters word) :
    part.IsSlight := by
  obtain ⟨c, -, rfl⟩ := List.mem_map.mp member
  exact ⟨Nat.zero_le 2, Nat.le_add_left 1 2⟩

theorem toPattern_letters (word : List Char) :
    (letters word).map Part.toPattern = word.map (charPattern ignoringCase) :=
  List.map_map

section Whole

variable {word : String} (ordinary : ∀ c ∈ word.toList, IsOrdinary c)
  (short : word.toList.length < 100000)

include ordinary short

/-- **A word without case** is read as its letters with all their spellings. -/
theorem parse_word :
    parse ("(?i)" ++ word) =
      .ok (inOrder (.empty :: word.toList.map (charPattern ignoringCase))) := by
  have spelled := readParts_word ordinary behindMark rfl 4 []
  rw [List.append_nil, readParts_nil, Nat.add_comm] at spelled
  have read : readParts (word.toList.length + 4) behindMark word.toList =
      .ok { behindMark with parts := (.modes :: letters word.toList).reverse } := by
    rw [spelled, List.reverse_cons]
    rfl
  have few : (letters word.toList).length ≤ 100000 := by
    rw [letters, List.length_map]
    exact Nat.le_of_lt short
  rw [parse_mark read (fun _ => isSlight_of_mem_letters) few, toPattern_letters]

/-- **A word without case and a number behind it.** -/
theorem parse_numbered :
    parse ("(?i)" ++ (word ++ "[0-9]+")) =
      .ok (inOrder (.empty :: (word.toList.map (charPattern ignoringCase) ++
        [.repeated 1 none (.one anyDigit)]))) := by
  have spelled := readParts_word ordinary behindMark rfl 10 "[0-9]+".toList
  rw [readParts_digits (behindMark.write word.toList) rfl] at spelled
  let number : Part := .pattern (.repeated 1 none (.one anyDigit)) 2
  have read : readParts ((word ++ "[0-9]+").toList.length + 4) behindMark
      (word ++ "[0-9]+").toList =
        .ok { behindMark with parts := (.modes :: (letters word.toList ++ [number])).reverse } := by
    have length : (word ++ "[0-9]+").toList.length + 4 = 10 + word.toList.length := by
      rw [String.toList_append, List.length_append, Nat.add_comm 10]
      rfl
    rw [length, String.toList_append, spelled, List.reverse_cons, List.reverse_append]
    rfl
  have slight : ∀ part ∈ letters word.toList ++ [number], part.IsSlight := by
    intro part member
    rcases List.mem_append.mp member with letter | last
    · exact isSlight_of_mem_letters letter
    · rw [List.mem_singleton.mp last]
      exact ⟨Nat.le_refl 2, Nat.le_refl 3⟩
  have few : (letters word.toList ++ [number]).length ≤ 100000 := by
    rw [List.length_append, letters, List.length_map]
    exact short
  rw [parse_mark read slight few, List.map_append, toPattern_letters]
  rfl

end Whole

end NodeStorage.Pattern
