/-
**Following paths.**

What the system finds by following a path exists and is no link (`stands_of_resolve`), so a link
whose target is missing and a loop of links lead nowhere. On the way the system asks only what
stands at a place and what an entry is called; so trees that hold the same at every place are
followed in the same way (`SameFiles.resolve_eq`), in whatever order their directories list their
names (`sameFiles_of_perm`).
-/

import Mathlib.Data.List.Nodup
import NodeStorage.Host.FileTree
import NodeStorage.Proofs.Text.Split

namespace NodeStorage.Host.FileTree

/-! ### Places -/

/-- It is a link. -/
def isLink : FileTree → Bool
  | .link _ => true
  | _ => false

theorem find?_append (tree : FileTree) (place more : List String) :
    tree.find? (place ++ more) = (tree.find? place).bind fun found => found.find? more := by
  induction place generalizing tree with
  | nil => rfl
  | cons name place ih =>
    rw [List.cons_append, find?, find?, Option.bind_assoc]
    exact Option.bind_congr fun child _ => ih child

theorem find?_concat (tree : FileTree) (place : List String) (name : String) :
    tree.find? (place ++ [name]) = (tree.find? place).bind fun found => found.entry? name := by
  rw [find?_append]
  refine Option.bind_congr fun found _ => ?_
  show (found.entry? name).bind some = found.entry? name
  cases found.entry? name <;> rfl

/-- Only a directory has entries. -/
theorem isLink_of_entry? {tree child : FileTree} {name : String}
    (found : tree.entry? name = some child) : tree.isLink = false := by
  cases tree with
  | directory entries => rfl
  | file contents => cases found
  | link target => cases found

/-- Something stands at the place, and it is no link. -/
def Stands (tree : FileTree) (place : List String) : Prop :=
  ∃ found, tree.find? place = some found ∧ found.isLink = false

/-- What stands above a place is no link either. -/
theorem Stands.dropLast {tree : FileTree} {place : List String} (stands : tree.Stands place) :
    tree.Stands place.dropLast := by
  rcases List.eq_nil_or_concat place with rfl | ⟨above, name, rfl⟩
  · exact stands
  · obtain ⟨found, here, -⟩ := stands
    rw [List.concat_eq_append] at here ⊢
    rw [find?_concat] at here
    obtain ⟨parent, there, entry⟩ := Option.bind_eq_some_iff.mp here
    rw [List.dropLast_concat]
    exact ⟨parent, there, isLink_of_entry? entry⟩

/-- Nor is the top, where something stands below it. -/
theorem Stands.top {tree : FileTree} {place : List String} (stands : tree.Stands place) :
    tree.Stands [] := by
  cases place with
  | nil => exact stands
  | cons name place =>
    obtain ⟨found, here, -⟩ := stands
    obtain ⟨child, entry, -⟩ := Option.bind_eq_some_iff.mp here
    exact ⟨tree, rfl, isLink_of_entry? entry⟩

/-! ### What is found -/

/-- **Following steps leads from what is no link to what is no link.** -/
theorem stands_of_follow {tree : FileTree} {links : Nat} {place todo result : List String}
    (followed : tree.follow links place todo = .ok result) (stands : tree.Stands place) :
    tree.Stands result := by
  fun_induction follow tree links place todo with
  | case1 links place =>
    cases followed
    exact stands
  | case2 | case3 | case6 | case7 | case8 => cases followed
  | case4 links place step rest here found directory idle ih => exact ih followed stands
  | case5 links place rest here found directory other ih => exact ih followed stands.dropLast
  | case9 place step rest here found directory other down short target entry left ih =>
    refine ih followed ?_
    split
    · exact stands.top
    · exact stands
  | case10 links place step rest here found directory other down short child noLink entry ih =>
    refine ih followed ⟨child, ?_, ?_⟩
    · rw [find?_concat, found, Option.bind_some, entry]
    · cases child with
      | link target => exact absurd rfl (noLink target)
      | file contents => rfl
      | directory entries => rfl

/-- A path is followed from the top, which must be a directory. -/
theorem stands_of_resolve {tree : FileTree} {path : String} {place : List String}
    (resolved : tree.resolve path = .ok place) : tree.Stands place := by
  unfold resolve at resolved
  split at resolved
  · cases resolved
  · split at resolved
    · cases resolved
    · refine stands_of_follow resolved ⟨tree, rfl, ?_⟩
      -- A link has no entries, so at the first step nothing is followed from it.
      cases tree with
      | file contents => rfl
      | directory entries => rfl
      | link target =>
        cases parts : steps path with
        | nil => exact absurd (List.map_eq_nil_iff.mp parts) (Text.splitAt_ne_nil _ _)
        | cons step rest =>
          rw [parts, follow] at resolved
          cases resolved

/-! ### Trees that hold the same -/

/-- Two trees look the same at the top: directories list the same names, in any order. -/
inductive Alike : FileTree → FileTree → Prop
  | file (contents : List UInt8) : Alike (.file contents) (.file contents)
  | link (target : String) : Alike (.link target) (.link target)
  | directory {entries others : List (String × FileTree)}
      (names : (entries.map Prod.fst).Perm (others.map Prod.fst)) :
      Alike (.directory entries) (.directory others)

/-- **Two trees hold the same at every place**, up to the order in which directories list their
names. -/
def SameFiles (tree other : FileTree) : Prop :=
  ∀ place, Option.Rel Alike (tree.find? place) (other.find? place)

theorem Alike.isDirectory_eq {tree other : FileTree} (alike : Alike tree other) :
    other.isDirectory = tree.isDirectory := by
  cases alike <;> rfl

namespace SameFiles

variable {tree other : FileTree}

theorem find?_eq_none (same : SameFiles tree other) {place : List String}
    (missing : tree.find? place = none) : other.find? place = none := by
  have alike := same place
  rw [missing] at alike
  cases found : other.find? place with
  | none => rfl
  | some there =>
    rw [found] at alike
    cases alike

theorem find?_eq_some (same : SameFiles tree other) {place : List String} {here : FileTree}
    (found : tree.find? place = some here) :
    ∃ there, other.find? place = some there ∧ Alike here there := by
  have alike := same place
  rw [found] at alike
  cases found' : other.find? place with
  | none =>
    rw [found'] at alike
    cases alike
  | some there =>
    rw [found'] at alike
    cases alike with
    | some alike => exact ⟨there, rfl, alike⟩

/-- What stands at a place of one tree stands there in the other, with the same entries. -/
theorem exists_there (same : SameFiles tree other) {place : List String} {here : FileTree}
    (found : tree.find? place = some here) :
    ∃ there, other.find? place = some there ∧ there.isDirectory = here.isDirectory ∧
      (∀ name, here.entry? name = none → there.entry? name = none) ∧
      ∀ name child, here.entry? name = some child →
        ∃ child', there.entry? name = some child' ∧ Alike child child' := by
  obtain ⟨there, found', alike⟩ := same.find?_eq_some found
  have entry (name : String) : other.find? (place ++ [name]) = there.entry? name := by
    rw [find?_concat, found', Option.bind_some]
  have entryHere (name : String) : tree.find? (place ++ [name]) = here.entry? name := by
    rw [find?_concat, found, Option.bind_some]
  refine ⟨there, found', alike.isDirectory_eq, fun name missing => ?_, fun name child given => ?_⟩
  · rw [← entry]
    exact same.find?_eq_none ((entryHere name).trans missing)
  · rw [← entry]
    exact same.find?_eq_some ((entryHere name).trans given)

/-- **Steps are followed in the same way.** -/
theorem follow_eq (same : SameFiles tree other) (links : Nat) (place todo : List String) :
    other.follow links place todo = tree.follow links place todo := by
  fun_induction follow tree links place todo with
  | case1 links place => rw [follow]
  | case2 links place step rest missing => rw [follow, same.find?_eq_none missing]
  | case3 links place step rest here found noDirectory =>
    obtain ⟨there, found', kind, -⟩ := same.exists_there found
    rw [follow, found']
    simp only [kind, noDirectory, if_true]
  | case4 links place step rest here found directory idle ih =>
    obtain ⟨there, found', kind, -⟩ := same.exists_there found
    rw [follow, found']
    simp only [kind, directory, idle, if_true, ih, Bool.false_eq_true, if_false]
  | case5 links place rest here found directory leads ih =>
    obtain ⟨there, found', kind, -⟩ := same.exists_there found
    rw [follow, found']
    simp only [kind, directory, leads, if_true, ih, Bool.false_eq_true, if_false]
  | case6 links place step rest here found directory leads down long =>
    obtain ⟨there, found', kind, -⟩ := same.exists_there found
    rw [follow, found']
    simp only [kind, directory, leads, down, long, if_true, Bool.false_eq_true, if_false]
  | case7 links place step rest here found directory leads down short missing =>
    obtain ⟨there, found', kind, absent, -⟩ := same.exists_there found
    rw [follow, found']
    simp only [kind, directory, leads, down, short, absent _ missing, Bool.false_eq_true, if_false]
  | case8 place step rest here found directory leads down short target entry =>
    obtain ⟨there, found', kind, -, given⟩ := same.exists_there found
    obtain ⟨_, entry', ⟨⟩⟩ := given _ _ entry
    rw [follow, found']
    simp only [kind, directory, leads, down, short, entry', Bool.false_eq_true, if_false]
  | case9 place step rest here found directory leads down short target entry left ih =>
    obtain ⟨there, found', kind, -, given⟩ := same.exists_there found
    obtain ⟨_, entry', ⟨⟩⟩ := given _ _ entry
    rw [follow, found']
    simp only [kind, directory, leads, down, short, entry', Bool.false_eq_true, if_false]
    exact ih
  | case10 links place step rest here found directory leads down short child noLink entry ih =>
    obtain ⟨there, found', kind, -, given⟩ := same.exists_there found
    obtain ⟨child', entry', alike⟩ := given _ _ entry
    rw [follow, found']
    simp only [kind, directory, leads, down, short, entry', Bool.false_eq_true, if_false]
    cases alike with
    | link target => exact absurd rfl (noLink target)
    | file contents => exact ih
    | directory names => exact ih

/-- **Paths lead to the same places.** -/
theorem resolve_eq (same : SameFiles tree other) (path : String) :
    other.resolve path = tree.resolve path := by
  unfold resolve
  rw [same.follow_eq]

/-- **A directory lists the same names**, or cannot be read for the same reason. -/
theorem list_cases (same : SameFiles tree other) (path : String) :
    (∃ names others, tree.list path = .ok names ∧ other.list path = .ok others ∧
      names.Perm others) ∨
      ∃ cause, tree.list path = .error cause ∧ other.list path = .error cause := by
  unfold list «open»
  rw [same.resolve_eq]
  cases resolved : tree.resolve path with
  | error cause => exact Or.inr ⟨cause, rfl, rfl⟩
  | ok place =>
    obtain ⟨here, found, -⟩ := stands_of_resolve resolved
    obtain ⟨there, found', alike⟩ := same.find?_eq_some found
    simp only [bind, Except.bind, found, found', pure, Except.pure]
    cases alike with
    | file contents => exact Or.inr ⟨_, rfl, rfl⟩
    | link target => exact Or.inr ⟨_, rfl, rfl⟩
    | directory names => exact Or.inl ⟨_, _, rfl, rfl, names⟩

end SameFiles

/-! ### Directories in another order -/

theorem SameFiles.refl (tree : FileTree) : SameFiles tree tree := by
  intro place
  cases tree.find? place with
  | none => exact .none
  | some here =>
    refine .some ?_
    cases here with
    | file contents => exact .file contents
    | link target => exact .link target
    | directory entries => exact .directory (.refl _)

/-- An entry that has its name for itself is found by it. -/
theorem entry?_eq_some_iff {entries : List (String × FileTree)}
    (distinct : (entries.map Prod.fst).Nodup) {name : String} {child : FileTree} :
    FileTree.entry? name (.directory entries) = some child ↔ (name, child) ∈ entries := by
  unfold entry?
  rw [Option.map_eq_some_iff]
  constructor
  · rintro ⟨⟨found, _⟩, isFirst, rfl⟩
    have named := List.find?_some isFirst
    rw [← show found = name from eq_of_beq named]
    exact List.mem_of_find?_eq_some isFirst
  · intro member
    obtain ⟨⟨found, other⟩, isFirst⟩ : ∃ entry, entries.find? (·.1 == name) = some entry :=
      Option.isSome_iff_exists.mp (List.find?_isSome.mpr ⟨_, member, beq_self_eq_true name⟩)
    have named := List.find?_some isFirst
    obtain rfl : found = name := eq_of_beq named
    have same := List.inj_on_of_nodup_map distinct (List.mem_of_find?_eq_some isFirst) member rfl
    exact ⟨_, isFirst, congrArg Prod.snd same⟩

/-- **Directories hold the same** if they list the same names and what they call by them holds the
same. -/
theorem sameFiles_of_entries {entries others : List (String × FileTree)}
    (names : (entries.map Prod.fst).Perm (others.map Prod.fst))
    (each : ∀ name, Option.Rel SameFiles (FileTree.entry? name (.directory entries))
      (FileTree.entry? name (.directory others))) :
    SameFiles (.directory entries) (.directory others) := by
  intro place
  cases place with
  | nil => exact .some (.directory names)
  | cons name place =>
    have below := each name
    unfold find?
    generalize FileTree.entry? name (.directory entries) = here at below ⊢
    generalize FileTree.entry? name (.directory others) = there at below ⊢
    cases below with
    | none => exact .none
    | some same => exact same place

/-- **A directory that lists its entries in another order holds the same.** -/
theorem sameFiles_of_perm {entries others : List (String × FileTree)} (perm : entries.Perm others)
    (distinct : (entries.map Prod.fst).Nodup) :
    SameFiles (.directory entries) (.directory others) := by
  refine sameFiles_of_entries (perm.map Prod.fst) fun name => ?_
  have same : FileTree.entry? name (.directory others) =
      FileTree.entry? name (.directory entries) := by
    refine Option.ext fun child => ?_
    rw [entry?_eq_some_iff distinct, entry?_eq_some_iff ((perm.map Prod.fst).nodup distinct),
      perm.mem_iff]
  rw [same]
  cases FileTree.entry? name (.directory entries) with
  | none => exact .none
  | some child => exact .some (.refl child)

end NodeStorage.Host.FileTree
