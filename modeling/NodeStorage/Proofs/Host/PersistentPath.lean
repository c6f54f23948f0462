/-
**The persistent path of a device is well defined.**

A device has a persistent path when it has a name, its node is found, the directory of persistent
links can be read, and one of its entries leads to the same place as the node. The path goes through
the first such entry by the bytes of the names (`pathById_eq_ok_iff`). So nothing depends on the
entries that lead nowhere or elsewhere (`pathById_congr`), nor on the order in which directories
list their names (`pathById_of_sameFiles`). `persistent_path` puts this together.
-/

import NodeStorage.Host.Probe
import NodeStorage.Proofs.Host.Resolution
import NodeStorage.Proofs.Outcome
import NodeStorage.Proofs.Text.ByteOrder

namespace NodeStorage.Host

/-! ### The first name -/

/-- **The first of some names that fits**, by the bytes of the names. -/
structure IsFirst (Fits : String → Prop) (names : List String) (name : String) : Prop where
  listed : name ∈ names
  fits : Fits name
  first : ∀ other ∈ names, Fits other → Text.encodeUtf8 name ≤ Text.encodeUtf8 other

/-- There is at most one first name. -/
theorem IsFirst.unique {Fits : String → Prop} {names : List String} {name other : String}
    (isFirst : IsFirst Fits names name) (otherFirst : IsFirst Fits names other) : name = other := by
  have before := isFirst.first other otherFirst.listed otherFirst.fits
  have after := otherFirst.first name isFirst.listed isFirst.fits
  exact String.le_antisymm (Text.encodeUtf8_le_iff.mp before) (Text.encodeUtf8_le_iff.mp after)

/-- What is first depends on the names that fit, and on nothing else. -/
theorem isFirst_congr {Fits Others : String → Prop} {names others : List String}
    (same : ∀ name, name ∈ names ∧ Fits name ↔ name ∈ others ∧ Others name) (name : String) :
    IsFirst Fits names name ↔ IsFirst Others others name := by
  constructor
  · rintro ⟨listed, fits, first⟩
    obtain ⟨listed', fits'⟩ := (same name).mp ⟨listed, fits⟩
    refine ⟨listed', fits', fun other member given => ?_⟩
    obtain ⟨member, given⟩ := (same other).mpr ⟨member, given⟩
    exact first other member given
  · rintro ⟨listed, fits, first⟩
    obtain ⟨listed', fits'⟩ := (same name).mpr ⟨listed, fits⟩
    refine ⟨listed', fits', fun other member given => ?_⟩
    obtain ⟨member, given⟩ := (same other).mp ⟨member, given⟩
    exact first other member given

/-- The names in the order of their bytes. -/
def sortNames (names : List String) : List String :=
  names.mergeSort fun left right => decide (left ≤ right)

theorem mem_sortNames {names : List String} {name : String} :
    name ∈ sortNames names ↔ name ∈ names :=
  List.mem_mergeSort

theorem pairwise_sortNames (names : List String) : (sortNames names).Pairwise (· ≤ ·) := by
  have sorted : (sortNames names).Pairwise fun left right => decide (left ≤ right) = true :=
    List.pairwise_mergeSort
      (fun first second third => by simpa using String.le_trans)
      (fun first second => by simpa using String.le_total first second) names
  exact sorted.imp of_decide_eq_true

/-- What is found among sorted names is the first that passes. -/
theorem isFirst_of_find? {test : String → Bool} {names : List String} {name : String}
    (found : (sortNames names).find? test = some name) :
    IsFirst (fun name => test name = true) names name := by
  obtain ⟨passes, before, after, split, failed⟩ := List.find?_eq_some_iff_append.mp found
  refine ⟨mem_sortNames.mp (List.mem_of_find?_eq_some found), passes, fun other inside good => ?_⟩
  have sorted := pairwise_sortNames names
  have somewhere := mem_sortNames.mpr inside
  rw [split] at sorted somewhere
  rw [Text.encodeUtf8_le_iff]
  rcases List.mem_append.mp somewhere with early | late
  · have fails := failed other early
    rw [good] at fails
    cases fails
  · rcases List.mem_cons.mp late with rfl | later
    · exact String.le_refl _
    · exact (List.pairwise_cons.mp (List.pairwise_append.mp sorted).2.1).1 other later

/-- **Among sorted names the first that passes is found**, and one is found if any passes. -/
theorem find?_sortNames_eq_some_iff {test : String → Bool} {names : List String} {name : String} :
    (sortNames names).find? test = some name ↔
      IsFirst (fun name => test name = true) names name := by
  refine ⟨isFirst_of_find?, fun isFirst => ?_⟩
  have passes : ((sortNames names).find? test).isSome = true :=
    List.find?_isSome.mpr ⟨name, mem_sortNames.mpr isFirst.listed, isFirst.fits⟩
  obtain ⟨other, found⟩ := Option.isSome_iff_exists.mp passes
  rw [found, isFirst.unique (isFirst_of_find? found)]

theorem sortNames_eq_of_perm {names others : List String} (perm : names.Perm others) :
    sortNames names = sortNames others := by
  have sorted : (sortNames names).Perm (sortNames others) :=
    (List.mergeSort_perm _ _).trans (perm.trans (List.mergeSort_perm _ _).symm)
  exact sorted.eq_of_pairwise (fun _ _ _ _ => String.le_antisymm) (pairwise_sortNames _)
    (pairwise_sortNames _)

/-! ### Links to a device -/

/-- **The probe has what it needs**: the device has a name, its node is found at a place, and the
directory of persistent links can be read and lists these names. -/
structure Probed (tree : FileTree) (places : Places) (device : BlockDevice)
    (target names : List String) : Prop where
  named : device.kernelName ≠ ""
  node : tree.resolve (join places.devices device.kernelName) = .ok target
  listed : tree.list places.persistentLinks = .ok names

/-- An entry of the directory of persistent links leads to a place. -/
def Leads (tree : FileTree) (places : Places) (target : List String) (name : String) : Prop :=
  tree.resolve (join places.persistentLinks name) = .ok target

variable {tree other : FileTree} {places : Places} {device : BlockDevice}

theorem leads_iff {target : List String} {name : String} :
    ((tree.resolve (join places.persistentLinks name)).toOption == some target) = true ↔
      Leads tree places target name := by
  rw [beq_iff_eq, Leads]
  constructor
  · exact eq_ok_of_toOption
  · intro leads
    rw [leads]
    rfl

/-- The link that is taken to a place, or the error when there is none. -/
def linkTo (tree : FileTree) (places : Places) (device : BlockDevice) (target names : List String) :
    Outcome String :=
  match (sortNames names).find? fun name =>
      (tree.resolve (join places.persistentLinks name)).toOption == some target with
  | some name => .ok (join places.persistentLinks name)
  | none =>
    .error (device.probeError
      (String.join ["no link in ", places.persistentLinks, " points to it"]))

theorem linkTo_eq_ok_iff {target names : List String} {path : String} :
    linkTo tree places device target names = .ok path ↔
      ∃ name, IsFirst (Leads tree places target) names name ∧
        path = join places.persistentLinks name := by
  have passes (name : String) : IsFirst (Leads tree places target) names name ↔
      (sortNames names).find? (fun name =>
        (tree.resolve (join places.persistentLinks name)).toOption == some target) = some name := by
    rw [find?_sortNames_eq_some_iff]
    exact isFirst_congr (fun name => and_congr_right fun _ => leads_iff.symm) name
  simp only [passes]
  unfold linkTo
  split
  · rename_i name found
    simp [found, eq_comm]
  · rename_i found
    simp [found]

theorem pathById_of_probed {target names : List String}
    (probed : Probed tree places device target names) :
    pathById tree places device = linkTo tree places device target names := by
  have named : device.kernelName.isEmpty = false := by simpa using probed.named
  simp only [pathById, nodeOf, named, probed.node, probed.listed, probing, Except.mapError, bind,
    Except.bind, Bool.false_eq_true, if_false, pure, Except.pure]
  unfold linkTo sortNames
  rw [List.find?_map]
  -- The links are the names in their order, each below the directory.
  simp only [Function.comp_def]
  cases List.find? _ (names.mergeSort _) <;> rfl

/-- Without what it needs the probe finds no path. -/
theorem exists_probed_of_ok {path : String} (found : pathById tree places device = .ok path) :
    ∃ target names, Probed tree places device target names := by
  unfold pathById nodeOf at found
  split at found
  · cases found
  · rename_i named
    cases node : tree.resolve (join places.devices device.kernelName) with
    | error cause =>
      simp only [bind, Except.bind, probing, node, Except.mapError] at found
      cases found
    | ok target =>
      cases listed : tree.list places.persistentLinks with
      | error cause =>
        simp only [bind, Except.bind, probing, node, listed, Except.mapError] at found
        cases found
      | ok names => exact ⟨target, names, by simpa using named, node, listed⟩

/-! ### The path -/

/-- **The path goes through the first entry that leads to the node.** -/
theorem pathById_eq_ok_iff {path : String} :
    pathById tree places device = .ok path ↔
      ∃ target names name, Probed tree places device target names ∧
        IsFirst (Leads tree places target) names name ∧
        path = join places.persistentLinks name := by
  constructor
  · intro found
    obtain ⟨target, names, probed⟩ := exists_probed_of_ok found
    rw [pathById_of_probed probed] at found
    obtain ⟨name, isFirst, rfl⟩ := linkTo_eq_ok_iff.mp found
    exact ⟨target, names, name, probed, isFirst, rfl⟩
  · rintro ⟨target, names, name, probed, isFirst, rfl⟩
    rw [pathById_of_probed probed]
    exact linkTo_eq_ok_iff.mpr ⟨name, isFirst, rfl⟩

/-- **There is a first name as soon as one fits.** -/
theorem exists_isFirst {Fits : String → Prop} {names : List String} {name : String}
    (listed : name ∈ names) (fits : Fits name) : ∃ first, IsFirst Fits names first := by
  classical
  have passes : ((sortNames names).find? fun name => decide (Fits name)).isSome = true :=
    List.find?_isSome.mpr ⟨name, mem_sortNames.mpr listed, decide_eq_true fits⟩
  obtain ⟨first, found⟩ := Option.isSome_iff_exists.mp passes
  refine ⟨first, (isFirst_congr (fun name => ?_) first).mp (isFirst_of_find? found)⟩
  rw [decide_eq_true_iff]

/-- **A path is found as soon as one entry leads to the node.** -/
theorem exists_pathById_eq_ok_iff :
    (∃ path, pathById tree places device = .ok path) ↔
      ∃ target names, Probed tree places device target names ∧
        ∃ name ∈ names, Leads tree places target name := by
  simp only [pathById_eq_ok_iff]
  constructor
  · rintro ⟨path, target, names, name, probed, isFirst, -⟩
    exact ⟨target, names, probed, name, isFirst.listed, isFirst.fits⟩
  · rintro ⟨target, names, probed, name, listed, leads⟩
    obtain ⟨first, isFirst⟩ := exists_isFirst listed leads
    exact ⟨_, target, names, first, probed, isFirst, rfl⟩

/-! ### What has no part in it -/

/-- Which link is taken depends on the entries that lead to the node, and on nothing else. -/
theorem linkTo_congr {target target' names names' : List String}
    (same : ∀ name, name ∈ names ∧ Leads tree places target name ↔
      name ∈ names' ∧ Leads other places target' name) :
    linkTo other places device target' names' = linkTo tree places device target names := by
  have tests : (sortNames names').find? (fun name =>
        (other.resolve (join places.persistentLinks name)).toOption == some target') =
      (sortNames names).find? fun name =>
        (tree.resolve (join places.persistentLinks name)).toOption == some target := by
    refine Option.ext fun name => ?_
    rw [find?_sortNames_eq_some_iff, find?_sortNames_eq_some_iff]
    refine isFirst_congr (fun name => ?_) name
    rw [leads_iff, leads_iff]
    exact (same name).symm
  unfold linkTo
  rw [tests]

/-- **Entries that lead nowhere or elsewhere have no part in the outcome**, be it a path or an
error. -/
theorem pathById_congr {target target' names names' : List String}
    (probed : Probed tree places device target names)
    (probed' : Probed other places device target' names')
    (same : ∀ name, name ∈ names ∧ Leads tree places target name ↔
      name ∈ names' ∧ Leads other places target' name) :
    pathById other places device = pathById tree places device := by
  rw [pathById_of_probed probed, pathById_of_probed probed', linkTo_congr same]

/-- **Nor has the order in which directories list their names.** -/
theorem pathById_of_sameFiles (same : tree.SameFiles other) :
    pathById other places device = pathById tree places device := by
  unfold pathById
  simp only [same.resolve_eq]
  rcases same.list_cases places.persistentLinks with
    ⟨names, others, listed, listed', perm⟩ | ⟨cause, failed, failed'⟩
  · have sorted := sortNames_eq_of_perm perm
    unfold sortNames at sorted
    simp only [listed, listed', probing, Except.mapError, bind, Except.bind, sorted]
  · rw [failed, failed']

/-! ### In short -/

/-- **What the persistent path of a device is.** -/
structure PersistentPath (tree : FileTree) (places : Places) (device : BlockDevice) : Prop where
  /-- One is found exactly if the device has a name, its node is found, and the directory of
  persistent links can be read and has an entry that leads to the node. -/
  found : (∃ path, pathById tree places device = .ok path) ↔
    ∃ target names, Probed tree places device target names ∧
      ∃ name ∈ names, Leads tree places target name
  /-- It goes through the first of these entries by the bytes of their names. -/
  first : ∀ {target names}, Probed tree places device target names → ∀ path,
    pathById tree places device = .ok path ↔
      ∃ name, IsFirst (Leads tree places target) names name ∧
        path = join places.persistentLinks name
  /-- What an entry must lead to is there and is no link, so an entry whose target is missing and a
  loop of links lead nowhere. -/
  stands : ∀ {target names}, Probed tree places device target names → tree.Stands target
  /-- Entries that lead nowhere or elsewhere do not change it. -/
  others : ∀ {other target names target' names'}, Probed tree places device target names →
    Probed other places device target' names' →
    (∀ name, name ∈ names ∧ Leads tree places target name ↔
      name ∈ names' ∧ Leads other places target' name) →
    pathById other places device = pathById tree places device
  /-- Nor does the order in which directories list their names. -/
  order : ∀ {other}, tree.SameFiles other →
    pathById other places device = pathById tree places device

/-- **The persistent path is well defined**, in every tree and for every device. -/
theorem persistent_path (tree : FileTree) (places : Places) (device : BlockDevice) :
    PersistentPath tree places device where
  found := exists_pathById_eq_ok_iff
  first := fun probed path => by
    rw [pathById_of_probed probed]
    exact linkTo_eq_ok_iff
  stands := fun probed => FileTree.stands_of_resolve probed.node
  others := pathById_congr
  order := pathById_of_sameFiles

end NodeStorage.Host
