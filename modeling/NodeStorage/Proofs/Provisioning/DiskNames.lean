/-
**The name of a unit's local disk.**

What the name is made of is said here of the path itself: its last step, behind the directories and
in front of slashes, of which there is one (`device_eq_iff`). The name in full is this step and the
world-wide name in small letters; what the cluster takes of it has at most sixty-three characters,
none of which is a capital or a separator, and at its end nothing but dashes and points is missing
(`disk_name_formed`). As making letters small may make one letter into two and depends on the
letters around, all of this is read off the letters that come out, not off those that go in.
-/

import NodeStorage.Proofs.Text.Case
import NodeStorage.Proofs.Text.Split
import NodeStorage.Proofs.Text.Trim
import NodeStorage.Provisioning.Resource

namespace NodeStorage.Provisioning

open Text

/-! ### The last step of a path -/

/-- **The path ends with this step**: directories may stand before it and slashes behind it. It is
empty only where the path consists of slashes. -/
structure IsLastStep (path step : List Char) : Prop where
  split : ∃ before after, path = before ++ step ++ after ∧
    (before = [] ∨ before.getLast? = some '/') ∧ ∀ c ∈ after, c = '/'
  free : '/' ∉ step
  given : step = [] → ∀ c ∈ path, c = '/'

theorem isLastStep_of_getLast? {path step : List Char}
    (isLast : (splitAt '/' (trimRight (· == '/') path)).getLast? = some step) :
    IsLastStep path step := by
  obtain ⟨slashes, whole, each⟩ := exists_trimRight_append (· == '/') path
  have noSlash := getLast?_trimRight (· == '/') path
  generalize trimRight (· == '/') path = kept at *
  subst whole
  have after : ∀ c ∈ slashes, c = '/' := fun c member => by simpa using each c member
  obtain ⟨free, rfl | ⟨front, rfl⟩⟩ := getLast?_splitAt_eq_some_iff.mp isLast
  · refine ⟨⟨[], slashes, rfl, Or.inl rfl, after⟩, free, ?_⟩
    rintro rfl
    exact after
  · refine ⟨⟨front ++ ['/'], slashes, by simp, Or.inr List.getLast?_concat, after⟩, free, ?_⟩
    rintro rfl
    -- What is kept does not end with a slash.
    have kept := noSlash '/' List.getLast?_concat
    cases kept

theorem getLast?_of_isLastStep {path step : List Char} (isLast : IsLastStep path step) :
    (splitAt '/' (trimRight (· == '/') path)).getLast? = some step := by
  obtain ⟨⟨before, after, rfl, edge, slashes⟩, free, given⟩ := isLast
  have each : ∀ c ∈ after, (c == '/') = true := fun c member => by simpa using slashes c member
  by_cases empty : step = []
  · have all : ∀ c ∈ before ++ step ++ after, (c == '/') = true := fun c member => by
      simpa using given empty c member
    rw [← List.nil_append (before ++ step ++ after), trimRight_append all, empty]
    rfl
  · have ends : ∀ c ∈ (before ++ step).getLast?, (c == '/') = false := by
      intro c member
      rw [List.getLast?_append_of_ne_nil _ empty] at member
      have other : c ≠ '/' := fun slash => free (slash ▸ List.mem_of_getLast? member)
      simpa using other
    rw [trimRight_append each, trimRight_eq_self ends, getLast?_splitAt_eq_some_iff]
    refine ⟨free, ?_⟩
    rcases edge with rfl | last
    · exact Or.inl rfl
    · obtain ⟨front, rfl⟩ := List.getLast?_eq_some_iff.mp last
      exact Or.inr ⟨front, by simp⟩

/-- **The device is the last step of the path.** -/
theorem Lun.device_eq_iff {lun : Lun} {step : List Char} :
    lun.device = step ↔ IsLastStep lun.path.toList step := by
  obtain ⟨last, isLast⟩ :=
    exists_getLast?_splitAt '/' (trimRight (· == '/') lun.path.toList)
  rw [Lun.device, isLast, Option.getD_some]
  constructor
  · rintro rfl
    exact isLastStep_of_getLast? isLast
  · intro steps
    rw [getLast?_of_isLastStep steps] at isLast
    exact (Option.some.inj isLast).symm

/-! ### The name in full -/

/-- The last step of a path and a world-wide name as the name of a disk, uncut. -/
def normalForm (step wwn : List Char) : List Char :=
  (lowercase (String.ofList ((step ++ '-' :: wwn).map fun c =>
    if c ∈ ['_', ':', '/'] then '-' else c))).toList

theorem nameChar_eq (c : Char) : Lun.nameChar c = if c ∈ ['_', ':', '/'] then '-' else c := by
  simp [Lun.nameChar]

theorem Lun.fullDiskName_eq {lun : Lun} {step : List Char}
    (isLast : IsLastStep lun.path.toList step) :
    lun.fullDiskName.toList = normalForm step lun.wwn.toList := by
  rw [fullDiskName, device_eq_iff.mpr isLast, normalForm]
  exact congrArg (fun chars => (lowercase (String.ofList chars)).toList)
    (List.map_congr_left fun c _ => nameChar_eq c)

/-- What is no letter comes into the name of a disk from the path or the world-wide name, and only
if it is no separator. -/
theorem Lun.not_separator_of_mem {lun : Lun} {c : Char} (member : c ∈ lun.fullDiskName.toList) :
    ¬ (c = '_' ∨ c = ':' ∨ c = '/') := by
  intro separator
  have below : c.toNat < 0x61 := by
    rcases separator with rfl | rfl | rfl <;> decide
  rw [fullDiskName, lowercase, String.toList_ofList, String.toList_ofList] at member
  obtain ⟨d, -, rfl⟩ := List.mem_map.mp (mem_of_mem_lowercaseAfter member below)
  rw [nameChar] at separator
  split at separator
  · exact absurd separator (by decide)
  · rename_i plain
    exact plain separator

/-! ### The name as it is given -/

/-- A dash or a point, as it does not stand at the end of a name. -/
def isLoose (c : Char) : Bool :=
  c == '-' || c == '.'

theorem Lun.toList_diskName (lun : Lun) :
    lun.diskName.toList = trimRight isLoose (lun.fullDiskName.toList.take 63) :=
  String.toList_ofList

theorem Lun.diskName_cut (lun : Lun) :
    lun.diskName.toList <+: lun.fullDiskName.toList.take 63 := by
  rw [toList_diskName]
  exact trimRight_prefix _ _

theorem Lun.diskName_opens (lun : Lun) : lun.diskName.toList <+: lun.fullDiskName.toList :=
  lun.diskName_cut.trans (List.take_prefix _ _)

/-- The units have the same world-wide name, and paths that differ in directories and in slashes at
their ends only. -/
def SameUnit (lun other : Lun) : Prop :=
  lun.wwn = other.wwn ∧
    ∃ step, IsLastStep lun.path.toList step ∧ IsLastStep other.path.toList step

/-- Such units have local disks of one name. -/
theorem SameUnit.diskName_eq {lun other : Lun} (same : SameUnit lun other) :
    other.diskName = lun.diskName := by
  obtain ⟨sameName, step, isLast, otherLast⟩ := same
  have full : other.fullDiskName = lun.fullDiskName := by
    rw [← String.toList_inj, Lun.fullDiskName_eq isLast, Lun.fullDiskName_eq otherLast, sameName]
  rw [Lun.diskName, Lun.diskName, full]

/-- What is known of the name of a unit's local disk. -/
structure NamesDisk (lun : Lun) (name : String) : Prop where
  short : name.length ≤ 63
  free : '_' ∉ name.toList ∧ ':' ∉ name.toList ∧ '/' ∉ name.toList
  small : lowercase name = name
  ends : name.toList.getLast? ≠ some '-' ∧ name.toList.getLast? ≠ some '.'
  /-- The path has one last step. -/
  device : ∃ step, IsLastStep lun.path.toList step ∧
    ∀ other, IsLastStep lun.path.toList other → other = step
  /-- The name in full begins with the name. -/
  begins : ∀ step, IsLastStep lun.path.toList step →
    name.toList <+: normalForm step lun.wwn.toList
  /-- Of its first sixty-three characters only dashes and points at the end may be missing. -/
  cut : ∀ step, IsLastStep lun.path.toList step →
    ∃ dropped, (normalForm step lun.wwn.toList).take 63 = name.toList ++ dropped ∧
      ∀ c ∈ dropped, c = '-' ∨ c = '.'
  /-- The directories of the path do not matter. -/
  shared : ∀ other, SameUnit lun other → other.diskName = name

/-- **The name of a local disk is well formed** and depends on the last step of the path and the
world-wide name only. -/
theorem disk_name_formed (lun : Lun) : NamesDisk lun lun.diskName where
  short := by
    rw [← String.length_toList]
    exact lun.diskName_cut.length_le.trans (List.length_take_le _ _)
  free := by
    have kept (c : Char) (separator : c = '_' ∨ c = ':' ∨ c = '/') : c ∉ lun.diskName.toList :=
      fun member => Lun.not_separator_of_mem (lun.diskName_opens.subset member) separator
    exact ⟨kept _ (Or.inl rfl), kept _ (Or.inr (Or.inl rfl)), kept _ (Or.inr (Or.inr rfl))⟩
  small := lowercase_eq_self fun _ member =>
    isSmall_of_mem_lowercase (lun.diskName_opens.subset member)
  ends := by
    have kept := getLast?_trimRight isLoose (lun.fullDiskName.toList.take 63)
    rw [← lun.toList_diskName] at kept
    exact ⟨fun dash => absurd (kept _ dash) (by decide),
      fun point => absurd (kept _ point) (by decide)⟩
  device := ⟨lun.device, Lun.device_eq_iff.mp rfl, fun _ isLast =>
    (Lun.device_eq_iff.mpr isLast).symm⟩
  begins step isLast := Lun.fullDiskName_eq isLast ▸ lun.diskName_opens
  cut step isLast := by
    obtain ⟨dropped, whole, loose⟩ :=
      exists_trimRight_append isLoose (lun.fullDiskName.toList.take 63)
    rw [← Lun.fullDiskName_eq isLast]
    refine ⟨dropped, by rw [lun.toList_diskName, ← whole], fun c member => ?_⟩
    simpa [isLoose] using loose c member
  shared _ same := same.diskName_eq

end NodeStorage.Provisioning
