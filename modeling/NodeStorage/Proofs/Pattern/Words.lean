/-
**Words without case are searched for as plain text.**

A pattern that ignores case takes every spelling of a letter in any script. For most ASCII letters
these are the two that ASCII has, so a word of such letters (`IsPlainWord`) is found where a part of
the text is the word in some mixture of capitals and small letters (`Holds`). A number behind the
word is found as soon as its first digit is there (`HoldsNumbered`): what more the repetition could
take does not matter.

* `leads_letters` — the letters of a word lead over a part that spells it.
* `searchesFor_word`, `searchesFor_numbered` — what the two patterns find, from their texts.
-/

import NodeStorage.Proofs.Pattern.Reading
import NodeStorage.Proofs.Pattern.Search
import NodeStorage.Proofs.Text.CaseVariants
import NodeStorage.Proofs.Text.Digits

namespace NodeStorage.Pattern

/-! ### Plain text -/

/-- A word of letters that mean themselves in patterns and have no spellings beyond ASCII. -/
def IsPlainWord (word : String) : Prop :=
  ∀ c ∈ word.toList, IsOrdinary c ∧ Text.IsPlain c.toNat

-- Only the letters of the word are tried, and not all the characters that there are.
instance : DecidablePred IsPlainWord :=
  fun word => List.decidableBAll _ word.toList

/-- Some part of the text is the word, in any mixture of ASCII capitals and small letters. -/
def Holds (word : String) (text : List Char) : Prop :=
  ∃ before part after,
    text = before ++ part ++ after ∧ Text.asciiLowercase part = word.toList

/-- Some part of the text is the word, in any mixture of ASCII capitals and small letters, with an
ASCII digit right behind it. -/
def HoldsNumbered (word : String) (text : List Char) : Prop :=
  ∃ before part digit after,
    text = before ++ part ++ digit :: after ∧ Text.asciiLowercase part = word.toList ∧
      digit.isDigit = true

/-- The text is a pattern, which occurs in just the texts with the property. -/
def SearchesFor (source : String) (property : List Char → Prop) : Prop :=
  ∃ pattern, parse source = .ok pattern ∧
    ∀ text, pattern.occursIn text = true ↔ property text.toList

theorem SearchesFor.occurs_iff {source : String} {property : List Char → Prop}
    (searches : SearchesFor source property) (text : String) :
    (∃ pattern, parse source = .ok pattern ∧ pattern.occursIn text = true) ↔
      property text.toList := by
  obtain ⟨pattern, read, occurs⟩ := searches
  rw [← occurs text]
  constructor
  · rintro ⟨other, same, found⟩
    rw [read] at same
    cases same
    exact found
  · exact fun found => ⟨pattern, read, found⟩

/-! ### Single characters -/

theorem contains_anyCase_single {c : Char} (plain : Text.IsPlain c.toNat) (d : Char) :
    (CharSet.anyCase (.single c)).contains d = true ↔ d.toLower = c := by
  have same (other : Nat) : (CharSet.single c).holds other = true ↔ c.toNat = other := by
    rw [CharSet.single, CharSet.holds, Bool.and_eq_true, decide_eq_true_iff, decide_eq_true_iff]
    omega
  rw [CharSet.contains, CharSet.holds, List.any_eq_true, ← Text.mem_caseVariants_iff_toLower plain]
  simp only [same, exists_eq_right']

/-- No digit has a second spelling. -/
theorem contains_anyDigit (d : Char) : anyDigit.contains d = true ↔ d.isDigit = true := by
  have inRange (other : Nat) : (CharSet.union .empty (.range 0x30 0x39)).holds other = true ↔
      0x30 ≤ other ∧ other ≤ 0x39 := by
    simp only [CharSet.holds, Bool.false_or, Bool.and_eq_true, decide_eq_true_iff]
  have plain {other : Nat} (range : 0x30 ≤ other ∧ other ≤ 0x39) : Text.IsPlain other :=
    ⟨by omega, by omega, by omega, by omega⟩
  have digit : d.isDigit = true ↔ 0x30 ≤ d.toNat ∧ d.toNat ≤ 0x39 := Text.isDigit_iff d
  rw [anyDigit, CharSet.contains, CharSet.holds, List.any_eq_true, digit]
  simp only [inRange]
  constructor
  · rintro ⟨other, spelled, range⟩
    rcases (Text.mem_caseVariants_iff (plain range)).mp spelled with same | letter
    · exact same ▸ range
    · omega
  · exact fun range =>
      ⟨d.toNat, (Text.mem_caseVariants_iff (plain range)).mpr (Or.inl rfl), range⟩

/-! ### Ways through words -/

theorem drop_eq_cons_iff {text : List Char} {start : Nat} {d : Char} {after : List Char} :
    text.drop start = d :: after ↔ text[start]? = some d ∧ text.drop (start + 1) = after := by
  constructor
  · intro split
    rw [← List.head?_drop, ← List.tail_drop, split]
    exact ⟨rfl, rfl⟩
  · rintro ⟨there, rfl⟩
    obtain ⟨inside, rfl⟩ := List.getElem?_eq_some_iff.mp there
    exact List.drop_eq_getElem_cons inside

section Leads

variable {text : List Char} {start stop : Nat}

theorem leads_inOrder_cons {first : Pattern} {rest : List Pattern} :
    Leads text (inOrder (first :: rest)) start stop ↔
      ∃ middle, Leads text first start middle ∧ Leads text (inOrder rest) middle stop := by
  cases rest with
  | nil => exact ⟨fun leads => ⟨stop, leads, rfl⟩, fun ⟨_, leads, same⟩ => same ▸ leads⟩
  | cons second rest => exact Iff.rfl

/-- One round is enough to be found. -/
theorem exists_leads_repeated {pattern : Pattern} :
    (∃ stop, Leads text (.repeated 1 none pattern) start stop) ↔
      ∃ stop, Leads text pattern start stop := by
  constructor
  · rintro ⟨stop, more, -, way⟩
    -- Only the first of the rounds is needed.
    rw [Nat.add_comm] at way
    obtain ⟨middle, leads, -⟩ := way
    exact ⟨middle, leads⟩
  · rintro ⟨stop, leads⟩
    exact ⟨stop, 0, nofun, stop, leads, rfl⟩

/-- **The letters of a word lead over a part that spells it.** -/
theorem leads_letters {word : List Char} (plain : ∀ c ∈ word, Text.IsPlain c.toNat)
    {rest : List Pattern} :
    Leads text (inOrder (word.map (charPattern ignoringCase) ++ rest)) start stop ↔
      ∃ part after, text.drop start = part ++ after ∧ Text.asciiLowercase part = word ∧
        Leads text (inOrder rest) (start + word.length) stop := by
  induction word generalizing start with
  | nil =>
    constructor
    · exact fun leads => ⟨[], text.drop start, rfl, rfl, leads⟩
    · rintro ⟨part, after, -, -, leads⟩
      exact leads
  | cons c word ih =>
    have here : Text.IsPlain c.toNat := plain c List.mem_cons_self
    have length : start + 1 + word.length = start + (c :: word).length := by
      rw [List.length_cons]
      omega
    rw [List.map_cons, List.cons_append, leads_inOrder_cons]
    simp only [ih fun d member => plain d (List.mem_cons_of_mem c member)]
    constructor
    · rintro ⟨_, ⟨d, there, taken, rfl⟩, part, after, split, rfl, leads⟩
      have same : d.toLower = c := (contains_anyCase_single here d).mp taken
      exact ⟨d :: part, after, drop_eq_cons_iff.mpr ⟨there, split⟩,
        congrArg (· :: Text.asciiLowercase part) same, length ▸ leads⟩
    · rintro ⟨_ | ⟨d, part⟩, after, split, spelled, leads⟩
      · cases spelled
      · obtain ⟨same, rfl⟩ := List.cons.inj spelled
        obtain ⟨there, later⟩ := drop_eq_cons_iff.mp split
        exact ⟨start + 1, ⟨d, there, (contains_anyCase_single here d).mpr same, rfl⟩,
          part, after, later, rfl, length.symm ▸ leads⟩

end Leads

/-! ### Texts with words -/

section Occurrence

variable {word : String} (plain : IsPlainWord word)

include plain

/-- A word occurs where a part of the text spells it and what follows the word leads on from
there. -/
theorem occursIn_letters (rest : List Pattern) (text : String) :
    occursIn (inOrder (.empty :: (word.toList.map (charPattern ignoringCase) ++ rest))) text =
        true ↔
      ∃ before part after, text.toList = before ++ part ++ after ∧
        Text.asciiLowercase part = word.toList ∧
          ∃ stop, Leads text.toList (inOrder rest) (before ++ part).length stop := by
  rw [occursIn_iff]
  simp only [leads_inOrder_cons, leads_letters fun c member => (plain c member).2]
  constructor
  · rintro ⟨_, inside, stop, start, rfl, part, after, split, spelled, leads⟩
    have length : (text.toList.take start ++ part).length = start + word.toList.length := by
      rw [List.length_append, List.length_take_of_le inside, ← spelled, Text.asciiLowercase,
        List.length_map]
    refine ⟨text.toList.take start, part, after, ?_, spelled, stop, length.symm ▸ leads⟩
    rw [List.append_assoc, ← split, List.take_append_drop]
  · rintro ⟨before, part, after, whole, spelled, stop, leads⟩
    have length : (before ++ part).length = before.length + word.toList.length := by
      rw [List.length_append, ← spelled, Text.asciiLowercase, List.length_map]
    refine ⟨before.length, ?_, stop, before.length, rfl, part, after, ?_, spelled, length ▸ leads⟩
    · rw [whole, List.append_assoc, List.length_append]
      exact Nat.le_add_right _ _
    · rw [whole, List.append_assoc, List.drop_left]

/-- **A word without case is found where it is held.** -/
theorem searchesFor_word (short : word.toList.length < 100000) :
    SearchesFor ("(?i)" ++ word) (Holds word) := by
  refine ⟨_, parse_word (fun c member => (plain c member).1) short, fun text => ?_⟩
  have letters := occursIn_letters plain [] text
  rw [List.append_nil] at letters
  rw [letters]
  constructor
  · exact fun ⟨before, part, after, whole, spelled, _⟩ => ⟨before, part, after, whole, spelled⟩
  · exact fun ⟨before, part, after, whole, spelled⟩ =>
      ⟨before, part, after, whole, spelled, _, rfl⟩

/-- **A word with a number is found where the word is held with a digit behind it.** -/
theorem searchesFor_numbered (short : word.toList.length < 100000) :
    SearchesFor ("(?i)" ++ (word ++ "[0-9]+")) (HoldsNumbered word) := by
  refine ⟨_, parse_numbered (fun c member => (plain c member).1) short, fun text => ?_⟩
  rw [occursIn_letters plain]
  simp only [inOrder, exists_leads_repeated]
  constructor
  · rintro ⟨before, part, after, whole, spelled, _, digit, there, taken, rfl⟩
    rw [whole, List.getElem?_append_right (Nat.le_refl _), Nat.sub_self] at there
    cases after with
    | nil => cases there
    | cons first after =>
      cases there
      exact ⟨before, part, digit, after, whole, spelled, (contains_anyDigit digit).mp taken⟩
  · rintro ⟨before, part, digit, after, whole, spelled, isDigit⟩
    refine ⟨before, part, digit :: after, whole, spelled, _, digit, ?_,
      (contains_anyDigit digit).mpr isDigit, rfl⟩
    rw [whole, List.getElem?_append_right (Nat.le_refl _), Nat.sub_self]
    rfl

end Occurrence

end NodeStorage.Pattern
