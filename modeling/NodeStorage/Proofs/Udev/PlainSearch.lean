/-
**The standard filter searches for plain text.**

Whether a line counts for lists of patterns depends on which patterns are in them, and neither on
their order nor on how often they are there (`any_understood_iff`). The standard patterns are words
without case, one of them with a number behind it. So their filter can be told in terms of the line
alone: something is added or removed, and it is no device-mapper node (`standard_plain`).
-/

import NodeStorage.Proofs.Pattern.Words
import NodeStorage.Udev.Filter

namespace NodeStorage.Udev

open Pattern (Holds HoldsNumbered SearchesFor)

/-! ### Lists of patterns -/

/-- The patterns among the texts. -/
def understood (texts : List String) : List Pattern :=
  texts.filterMap fun text => (Pattern.parse text).toOption

theorem mem_understood {texts : List String} {pattern : Pattern} :
    pattern ∈ understood texts ↔ ∃ text ∈ texts, Pattern.parse text = .ok pattern := by
  have read (text : String) :
      (Pattern.parse text).toOption = some pattern ↔ Pattern.parse text = .ok pattern := by
    cases Pattern.parse text with
    | error cause => exact iff_of_false nofun nofun
    | ok other => exact Option.some_inj.trans (Except.ok.injEq other pattern ▸ Iff.rfl)
  simp only [understood, List.mem_filterMap, read]

/-- Where all texts are patterns, all of them are read. -/
theorem readPatterns_eq {texts : List String}
    (readable : ∀ text ∈ texts, ∃ pattern, Pattern.parse text = .ok pattern) :
    Filter.readPatterns texts = .ok (understood texts) := by
  induction texts with
  | nil => rfl
  | cons text texts ih =>
    obtain ⟨pattern, read⟩ := readable text List.mem_cons_self
    have later := ih fun other member => readable other (List.mem_cons_of_mem text member)
    have first : understood (text :: texts) = pattern :: understood texts := by
      rw [understood, List.filterMap_cons, read]
      rfl
    rw [Filter.readPatterns] at later ⊢
    rw [List.mapM_cons, read, later, first]
    rfl

/-- **One of the patterns occurs** if one of the texts is a pattern that does. -/
theorem any_understood_iff {texts : List String} {occurs : Pattern → Bool} :
    (understood texts).any occurs = true ↔
      ∃ text ∈ texts, ∃ pattern, Pattern.parse text = .ok pattern ∧ occurs pattern = true := by
  rw [List.any_eq_true]
  simp only [mem_understood]
  constructor
  · rintro ⟨pattern, ⟨text, member, read⟩, found⟩
    exact ⟨text, member, pattern, read, found⟩
  · rintro ⟨text, member, pattern, read, found⟩
    exact ⟨pattern, ⟨text, member, read⟩, found⟩

/-- **Order and repetitions do not matter.** -/
theorem any_understood_congr {texts others : List String}
    (same : ∀ text, text ∈ texts ↔ text ∈ others) (occurs : Pattern → Bool) :
    (understood texts).any occurs = (understood others).any occurs := by
  rw [Bool.eq_iff_iff, any_understood_iff, any_understood_iff]
  simp only [same]

/-! ### The standard patterns -/

theorem searchesFor_add : SearchesFor "(?i)add" (Holds "add") :=
  have plain : Pattern.IsPlainWord "add" := by decide
  have searches := Pattern.searchesFor_word plain (by decide)
  searches

theorem searchesFor_remove : SearchesFor "(?i)remove" (Holds "remove") :=
  have plain : Pattern.IsPlainWord "remove" := by decide
  have searches := Pattern.searchesFor_word plain (by decide)
  searches

theorem searchesFor_deviceMapper : SearchesFor "(?i)dm-[0-9]+" (HoldsNumbered "dm-") :=
  have plain : Pattern.IsPlainWord "dm-" := by decide
  have searches := Pattern.searchesFor_numbered plain (by decide)
  searches

/-- Every standard pattern can be read. -/
theorem defaults_readable :
    ∀ text ∈ Filter.defaultWanted ++ Filter.defaultUnwanted,
      ∃ pattern, Pattern.parse text = .ok pattern := by
  have readable {source : String} {property : List Char → Prop}
      (searches : SearchesFor source property) : ∃ pattern, Pattern.parse source = .ok pattern :=
    searches.imp fun _ read => read.1
  simp only [Filter.defaultWanted, Filter.defaultUnwanted, List.cons_append, List.nil_append,
    List.forall_mem_cons, List.not_mem_nil, false_imp_iff, implies_true, and_true]
  exact ⟨readable searchesFor_add, readable searchesFor_remove, readable searchesFor_deviceMapper⟩

theorem standard_accepts_iff (line : String) :
    Filter.standard.accepts line = true ↔
      (Holds "add" line.toList ∨ Holds "remove" line.toList) ∧
        ¬ HoldsNumbered "dm-" line.toList := by
  have filter : Filter.standard =
      ⟨understood Filter.defaultWanted, understood Filter.defaultUnwanted⟩ := rfl
  rw [filter, Filter.accepts, Bool.and_eq_true, Bool.not_eq_true', ← Bool.not_eq_true,
    any_understood_iff, any_understood_iff]
  simp only [Filter.defaultWanted, Filter.defaultUnwanted, List.exists_mem_cons_iff,
    List.not_mem_nil, false_and, exists_false, or_false, searchesFor_add.occurs_iff,
    searchesFor_remove.occurs_iff, searchesFor_deviceMapper.occurs_iff]

/-- Lists with the standard patterns, in any order and with repetitions, are read, and lines count
for them as they do for the standard filter. -/
theorem lineCounts_eq_standard {wanted unwanted : List String}
    (sameWanted : ∀ text, text ∈ wanted ↔ text ∈ Filter.defaultWanted)
    (sameUnwanted : ∀ text, text ∈ unwanted ↔ text ∈ Filter.defaultUnwanted) (line : String) :
    lineCounts line wanted unwanted = .ok (Filter.standard.accepts line) := by
  have readWanted : Filter.readPatterns wanted = .ok (understood wanted) :=
    readPatterns_eq fun text member =>
      defaults_readable text (List.mem_append_left _ ((sameWanted text).mp member))
  have readUnwanted : Filter.readPatterns unwanted = .ok (understood unwanted) :=
    readPatterns_eq fun text member =>
      defaults_readable text (List.mem_append_right _ ((sameUnwanted text).mp member))
  have counts : lineCounts line wanted unwanted =
      .ok (Filter.accepts ⟨understood wanted, understood unwanted⟩ line) := by
    rw [lineCounts, Filter.ofTexts, readWanted, readUnwanted]
    rfl
  -- The standard filter leaves out what is no pattern, which here is nothing.
  rw [counts, Filter.accepts, any_understood_congr sameWanted, any_understood_congr sameUnwanted]
  rfl

/-- **The standard filter searches for plain text**, and so do lists with its patterns in any order
and with repetitions. -/
theorem standard_plain (line : String) :
    (Filter.standard.accepts line = true ↔
        (Holds "add" line.toList ∨ Holds "remove" line.toList) ∧
          ¬ HoldsNumbered "dm-" line.toList) ∧
      ∀ wanted unwanted : List String,
        (∀ text, text ∈ wanted ↔ text ∈ Filter.defaultWanted) →
        (∀ text, text ∈ unwanted ↔ text ∈ Filter.defaultUnwanted) →
          lineCounts line wanted unwanted = .ok (Filter.standard.accepts line) :=
  ⟨standard_accepts_iff line, fun _ _ sameWanted sameUnwanted =>
    lineCounts_eq_standard sameWanted sameUnwanted line⟩

/-- A disk that is removed counts, as no number stands behind the `DM-`; a device-mapper node that
is added does not. -/
theorem deviceMapper_ignored :
    lineCounts "ReMoVe /devices/DM-é" ["(?i)remove", "(?i)add", "(?i)remove"]
        ["(?i)dm-[0-9]+", "(?i)dm-[0-9]+"] = .ok true ∧
      lineCounts "ADD /devices/Dm-7" ["(?i)remove", "(?i)add", "(?i)remove"]
        ["(?i)dm-[0-9]+", "(?i)dm-[0-9]+"] = .ok false := by
  have sameWanted (text : String) :
      text ∈ ["(?i)remove", "(?i)add", "(?i)remove"] ↔ text ∈ Filter.defaultWanted := by
    simp only [Filter.defaultWanted, List.mem_cons, List.not_mem_nil, or_false]
    tauto
  have sameUnwanted (text : String) :
      text ∈ ["(?i)dm-[0-9]+", "(?i)dm-[0-9]+"] ↔ text ∈ Filter.defaultUnwanted := by
    simp only [Filter.defaultUnwanted, List.mem_cons, List.not_mem_nil, or_false, or_self]
  obtain ⟨disk, same⟩ := standard_plain "ReMoVe /devices/DM-é"
  obtain ⟨node, alike⟩ := standard_plain "ADD /devices/Dm-7"
  constructor
  · have noDigit : ("ReMoVe /devices/DM-é".toList.all fun c => !c.isDigit) = true := by decide
    rw [same _ _ sameWanted sameUnwanted, disk.mpr ⟨Or.inr ⟨[], "ReMoVe".toList, _, rfl, rfl⟩, ?_⟩]
    rintro ⟨before, part, digit, after, whole, -, isDigit⟩
    have inside : digit ∈ "ReMoVe /devices/DM-é".toList := by
      rw [whole]
      exact List.mem_append_right _ List.mem_cons_self
    have other := List.all_eq_true.mp noDigit digit inside
    rw [isDigit] at other
    cases other
  · rw [alike _ _ sameWanted sameUnwanted, Bool.eq_false_iff.mpr fun counts => (node.mp counts).2
      ⟨"ADD /devices/".toList, "Dm-".toList, '7', [], rfl, rfl, rfl⟩]

end NodeStorage.Udev
