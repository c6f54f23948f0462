/-
**What an image is told apart by.**

An image has a digest behind the first mark of one, or else a tag behind a colon that no slash and
no other colon follows, or neither (`HasVersion`). This is what its version is, and there is no
image of which it tells nothing (`imageVersion_eq_iff`). The mark begins with a character that does
not come again in it, so it never overlaps with what stands in front of it (`after?_append`); and
where a tag put behind a name makes a mark together with it, the tag is the digest behind that mark.
-/

import NodeStorage.Proofs.Text.Split
import NodeStorage.Registry.Image

namespace NodeStorage.Registry

open Text

/-! ### The first mark -/

section FirstMark

variable {first : Char} {rest : List Char}

theorem after?_eq_none {mark chars : List Char} (free : ¬ mark <:+: chars) :
    after? mark chars = none := by
  induction chars with
  | nil =>
    rw [after?, if_neg]
    intro empty
    rw [List.isEmpty_iff.mp empty] at free
    exact free (List.nil_infix)
  | cons c chars ih =>
    obtain ⟨noStart, later⟩ := not_or.mp (List.infix_cons_iff.not.mp free)
    rw [after?, if_neg (by rwa [List.isPrefixOf_iff_prefix]), ih later]

/-- **What stands behind a mark is found**, if there is none before. As the mark does not repeat its
first character, it begins nowhere in what stands before and ends in the mark. -/
theorem after?_append (once : first ∉ rest) {before : List Char}
    (free : ¬ first :: rest <:+: before) (after : List Char) :
    after? (first :: rest) (before ++ first :: rest ++ after) = some after := by
  induction before with
  | nil =>
    have starts : (first :: rest).isPrefixOf (first :: (rest ++ after)) = true :=
      List.isPrefixOf_iff_prefix.mpr (List.prefix_append (first :: rest) after)
    rw [List.nil_append, List.cons_append, after?, if_pos starts, List.length_cons,
      List.drop_succ_cons, List.drop_left]
  | cons c before ih =>
    obtain ⟨noStart, later⟩ := not_or.mp (List.infix_cons_iff.not.mp free)
    have misses : ¬ first :: rest <+: c :: (before ++ first :: rest ++ after) := by
      intro starts
      obtain ⟨rfl, inside⟩ := List.cons_prefix_cons.mp starts
      have again : before ++ [first] <+: before ++ first :: rest ++ after :=
        ⟨rest ++ after, by simp⟩
      -- The rest of the mark would end before the mark that follows, or hold its first character.
      rcases List.prefix_or_prefix_of_prefix inside again with short | long
      · rcases List.prefix_concat_iff.mp short with whole | short
        · exact once (by rw [whole]; simp)
        · exact noStart (List.cons_prefix_cons.mpr ⟨rfl, short⟩)
      · exact once (long.subset (by simp))
    rw [List.cons_append, List.cons_append, after?, if_neg (by rwa [List.isPrefixOf_iff_prefix]),
      ih later]

/-- Where there is a mark, there is a first one. -/
theorem exists_first_mark {chars : List Char} (marked : first :: rest <:+: chars) :
    ∃ before after, chars = before ++ first :: rest ++ after ∧ ¬ first :: rest <:+: before := by
  induction chars with
  | nil => cases List.infix_nil.mp marked
  | cons c chars ih =>
    by_cases starts : first :: rest <+: c :: chars
    · obtain ⟨after, whole⟩ := starts
      exact ⟨[], after, whole.symm, fun inside => by cases List.infix_nil.mp inside⟩
    · obtain ⟨before, after, rfl, free⟩ :=
        ih ((List.infix_cons_iff.mp marked).resolve_left starts)
      refine ⟨c :: before, after, rfl, fun inside => ?_⟩
      rcases List.infix_cons_iff.mp inside with early | later
      · exact starts (early.trans ⟨first :: rest ++ after, by simp⟩)
      · exact free later

end FirstMark

/-! ### The last separator -/

theorem afterLast?_of_notMem {separator : Char} {chars : List Char} (free : separator ∉ chars) :
    afterLast? separator chars = none := by
  rw [afterLast?, splitAt_of_notMem free]

theorem afterLast?_append {separator : Char} {part : List Char} (free : separator ∉ part)
    (front : List Char) : afterLast? separator (front ++ separator :: part) = some part := by
  rw [afterLast?, splitAt_append_of_notMem free]
  cases parts : splitAt separator front with
  | nil => exact absurd parts (splitAt_ne_nil _ _)
  | cons first rest =>
    cases rest with
    | nil => rfl
    | cons next rest =>
      show (first :: next :: rest ++ [part]).getLast? = some part
      exact List.getLast?_concat

/-- The last step has no colon in it exactly if all colons are in front of a slash. -/
theorem colon_notMem_iff {chars step : List Char}
    (isLast : (splitAt '/' chars).getLast? = some step) :
    ':' ∉ step ↔ ∀ front part, chars = front ++ ':' :: part → '/' ∈ part := by
  constructor
  · rintro bare front part rfl
    by_contra noSlash
    have free : '/' ∉ ':' :: part := by simpa using noSlash
    obtain ⟨early, isEarly⟩ := exists_getLast?_splitAt '/' front
    have late := getLast?_splitAt_append isEarly free
    rw [isLast, Option.some.injEq] at late
    exact bare (by rw [late]; simp)
  · intro ports colon
    obtain ⟨stepFree, whole⟩ := getLast?_splitAt_eq_some_iff.mp isLast
    obtain ⟨early, late, rfl⟩ := List.append_of_mem colon
    refine stepFree (List.mem_append_right _ (List.mem_cons_of_mem _ ?_))
    rcases whole with whole | ⟨front, whole⟩
    · exact ports early late whole
    · exact ports (front ++ '/' :: early) late (by rw [whole]; simp)

/-! ### What the version is -/

/-- The text has the mark of a digest in it. -/
def Marked (name : String) : Prop :=
  "@sha256:".toList <:+: name.toList

/-- **The version of an image**, by what the image is made of. -/
inductive HasVersion (image : String) : String → Prop
  /-- Behind the first mark stands the digest. -/
  | digest {name version : String} (whole : image = name ++ "@sha256:" ++ version)
      (first : ¬ Marked name) : HasVersion image version
  /-- Without a digest, the tag stands behind a colon in the last step. -/
  | tag {name version : String} (unmarked : ¬ Marked image) (whole : image = name ++ ":" ++ version)
      (noSlash : '/' ∉ version.toList) (noColon : ':' ∉ version.toList) : HasVersion image version
  /-- There is neither digest nor tag: all colons are in front of a slash. -/
  | nothing (unmarked : ¬ Marked image)
      (ports : ∀ front part, image.toList = front ++ ':' :: part → '/' ∈ part) :
      HasVersion image ""

theorem toList_mark : "@sha256:".toList = '@' :: ['s', 'h', 'a', '2', '5', '6', ':'] :=
  rfl

theorem marked_iff {name : String} :
    Marked name ↔ '@' :: ['s', 'h', 'a', '2', '5', '6', ':'] <:+: name.toList := by
  rw [Marked, toList_mark]

theorem after?_of_marked (name version : String) (first : ¬ Marked name) :
    after? digestMark (name ++ "@sha256:" ++ version).toList = some version.toList := by
  rw [marked_iff] at first
  have found := after?_append (by decide) first version.toList
  rw [String.toList_append, String.toList_append, toList_mark]
  exact found

theorem exists_of_marked {image : String} (marked : Marked image) :
    ∃ name version, image = name ++ "@sha256:" ++ version ∧ ¬ Marked name := by
  rw [marked_iff] at marked
  obtain ⟨before, after, whole, free⟩ := exists_first_mark marked
  refine ⟨String.ofList before, String.ofList after, ?_, ?_⟩
  · rw [← String.toList_inj, whole, String.toList_append, String.toList_append, toList_mark,
      String.toList_ofList, String.toList_ofList]
  · rwa [marked_iff, String.toList_ofList]

theorem imageVersion_of_unmarked {image : String} (unmarked : ¬ Marked image)
    {step : List Char} (isLast : (splitAt '/' image.toList).getLast? = some step) :
    imageVersion image = String.ofList ((afterLast? ':' step).getD []) := by
  have none : after? digestMark image.toList = none := after?_eq_none unmarked
  rw [imageVersion, none, isLast]
  rfl

theorem HasVersion.imageVersion_eq {image version : String} (has : HasVersion image version) :
    imageVersion image = version := by
  cases has with
  | digest whole first =>
    rw [whole, imageVersion, after?_of_marked _ _ first]
    exact String.ofList_toList
  | @tag name _ unmarked whole noSlash noColon =>
    obtain ⟨step, isLast⟩ := exists_getLast?_splitAt '/' name.toList
    have tagged : (splitAt '/' image.toList).getLast? = some (step ++ ':' :: version.toList) := by
      rw [whole, String.toList_append, String.toList_append, List.append_assoc]
      exact getLast?_splitAt_append isLast (by simpa using noSlash)
    rw [imageVersion_of_unmarked unmarked tagged, afterLast?_append noColon]
    exact String.ofList_toList
  | nothing unmarked ports =>
    obtain ⟨step, isLast⟩ := exists_getLast?_splitAt '/' image.toList
    rw [imageVersion_of_unmarked unmarked isLast,
      afterLast?_of_notMem ((colon_notMem_iff isLast).mpr ports)]
    rfl

theorem exists_hasVersion (image : String) : ∃ version, HasVersion image version := by
  by_cases marked : Marked image
  · obtain ⟨name, version, whole, first⟩ := exists_of_marked marked
    exact ⟨version, .digest whole first⟩
  · obtain ⟨step, isLast⟩ := exists_getLast?_splitAt '/' image.toList
    obtain ⟨stepFree, whole⟩ := getLast?_splitAt_eq_some_iff.mp isLast
    by_cases colon : ':' ∈ step
    · obtain ⟨early, late, rfl, lateFree⟩ := exists_append_of_mem colon
      obtain ⟨name, same⟩ : ∃ name, image.toList = name ++ ':' :: late := by
        rcases whole with whole | ⟨front, whole⟩
        · exact ⟨early, whole⟩
        · exact ⟨front ++ '/' :: early, by rw [whole]; simp⟩
      have joined : image = String.ofList name ++ ":" ++ String.ofList late := by
        rw [← String.toList_inj, same]
        simp
      refine ⟨String.ofList late, .tag marked joined ?_ ?_⟩
      · rw [String.toList_ofList]
        exact fun slash => stepFree (List.mem_append_right _ (List.mem_cons_of_mem _ slash))
      · rwa [String.toList_ofList]
    · exact ⟨"", .nothing marked ((colon_notMem_iff isLast).mp colon)⟩

/-- **The version of an image is its digest, or else its tag, or else nothing.** -/
theorem imageVersion_eq_iff {image version : String} :
    imageVersion image = version ↔ HasVersion image version := by
  refine ⟨?_, HasVersion.imageVersion_eq⟩
  rintro rfl
  obtain ⟨version, has⟩ := exists_hasVersion image
  rwa [has.imageVersion_eq]

/-! ### Names without a version -/

/-- **The name of an image without a version**: steps with slashes between them, of which the last
one has no colon in it. -/
structure IsRepository (name : String) : Prop where
  unmarked : ¬ Marked name
  steps : ∃ steps : List String, "/".intercalate steps = name ∧
    (∀ step ∈ steps, '/' ∉ step.toList) ∧ ∀ last ∈ steps.getLast?, ':' ∉ last.toList

theorem IsRepository.exists_lastStep {name : String} (repository : IsRepository name) :
    ∃ step, (splitAt '/' name.toList).getLast? = some step ∧ ':' ∉ step := by
  obtain ⟨-, steps, rfl, free, bare⟩ := repository
  by_cases given : steps = []
  · subst given
    exact ⟨[], rfl, List.not_mem_nil⟩
  · have parts : splitAt '/' ("/".intercalate steps).toList = steps.map String.toList := by
      refine splitAt_eq_iff.mpr ⟨by simpa using given, by simpa using free, ?_⟩
      rw [String.toList_intercalate]
      rfl
    have isLast := List.getLast?_eq_some_getLast given
    rw [parts, List.getLast?_map, isLast]
    exact ⟨_, rfl, bare _ isLast⟩

/-- **A name without a version has none.** -/
theorem IsRepository.hasVersion {name : String} (repository : IsRepository name) :
    HasVersion name "" := by
  obtain ⟨step, isLast, bare⟩ := repository.exists_lastStep
  exact .nothing repository.unmarked ((colon_notMem_iff isLast).mp bare)

/-- A mark that comes about by a tag ends in front of the tag. -/
theorem hasVersion_of_marked_tag {name tag : String} (unmarked : ¬ Marked name)
    (noColon : ':' ∉ tag.toList) (marked : Marked (name ++ ":" ++ tag)) :
    HasVersion (name ++ ":" ++ tag) tag := by
  obtain ⟨before, version, whole, first⟩ := exists_of_marked marked
  have chars : name.toList ++ ':' :: tag.toList =
      (before.toList ++ ['@', 's', 'h', 'a', '2', '5', '6']) ++ ':' :: version.toList := by
    have same := congrArg String.toList whole
    rw [String.toList_append, String.toList_append, String.toList_append, String.toList_append,
      toList_mark] at same
    simpa using same
  -- The colon of the mark is neither in the name, which has no mark, nor in the tag.
  have sameTag : version = tag := by
    rw [← String.toList_inj]
    rcases List.append_eq_append_iff.mp chars with ⟨more, marks, rest⟩ | ⟨more, names, rest⟩
    · cases more with
      | nil => exact (List.cons.inj rest).2.symm
      | cons c more =>
        obtain ⟨-, tagged⟩ := List.cons.inj rest
        exact absurd (by rw [tagged]; simp) noColon
    · cases more with
      | nil => exact (List.cons.inj rest).2
      | cons c more =>
        obtain ⟨rfl, -⟩ := List.cons.inj rest
        refine absurd (marked_iff.mpr ⟨before.toList, more, ?_⟩) unmarked
        rw [names]
        simp
  rw [sameTag] at whole
  exact .digest whole first

example : imageVersion "host:5000/image@sha256:1" = "1" := by
  decide +kernel

/-- **A tag put behind a name without a version is the version.** -/
theorem IsRepository.hasVersion_tag {name tag : String} (repository : IsRepository name)
    (noSlash : '/' ∉ tag.toList) (noColon : ':' ∉ tag.toList) :
    HasVersion (name ++ ":" ++ tag) tag := by
  by_cases marked : Marked (name ++ ":" ++ tag)
  · exact hasVersion_of_marked_tag repository.unmarked noColon marked
  · exact .tag marked rfl noSlash noColon

/-! ### Labels -/

/-- What is known of the version of an image and of the label that is made of it. -/
structure TellsVersion (name : String) : Prop where
  /-- A digest behind the name is the version, whatever else is in the name. -/
  digest : ¬ Marked name → ∀ digest, imageVersion (name ++ "@sha256:" ++ digest) = digest
  plain : IsRepository name → imageVersion name = ""
  tag : IsRepository name → ∀ tag, '/' ∉ tag.toList → ':' ∉ tag.toList →
    imageVersion (name ++ ":" ++ tag) = tag
  /-- There is no other way to a version. -/
  only : ∀ version, imageVersion name = version ↔ HasVersion name version
  /-- The label is as much of the version as fits. -/
  label : (imageLabel name).toList <+: (imageVersion name).toList ∧
    (imageLabel name).length = min 63 (imageVersion name).length
  whole : (imageVersion name).length ≤ 63 → imageLabel name = imageVersion name

theorem toList_imageLabel (image : String) :
    (imageLabel image).toList = (imageVersion image).toList.take 63 :=
  String.toList_ofList

/-- **The version of an image tells its digest or its tag**, and the label tells as much of it as
fits. -/
theorem version_told (name : String) : TellsVersion name where
  digest first _ := HasVersion.imageVersion_eq (.digest rfl first)
  plain repository := repository.hasVersion.imageVersion_eq
  tag repository _ noSlash noColon :=
    (repository.hasVersion_tag noSlash noColon).imageVersion_eq
  only _ := imageVersion_eq_iff
  label := by
    rw [toList_imageLabel]
    refine ⟨List.take_prefix _ _, ?_⟩
    rw [← String.length_toList, toList_imageLabel, List.length_take, String.length_toList]
  whole fits := by
    rw [← String.toList_inj, toList_imageLabel, List.take_of_length_le]
    rwa [String.length_toList]

end NodeStorage.Registry
