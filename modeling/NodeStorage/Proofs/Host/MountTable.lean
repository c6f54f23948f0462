/-
**Looking up a bind mount, line by line.**

What the lookup finds is said here without the lookup: what the lines of a text are (`IsLines`), and
what a line says that mounts a device's node (`Mounts`). The lookup gives the place of the first
such line (`findBindMount_eq_some_iff`), so all other lines, however broken, may come, go and change
places (`findBindMount_congr`), and a name with a slash in it is never found
(`findBindMount_of_slash`). `mount_lookup` puts the three together.
-/

import NodeStorage.Host.MountTable
import NodeStorage.Proofs.Host.Path

namespace NodeStorage.Host

open Text

/-! ### Lines -/

/-- **The text consists of these lines**, each of which is ended by a line feed, by a carriage
return and a line feed, or by the end of the text. -/
inductive IsLines : List Char → List (List Char) → Prop
  | nothing : IsLines [] []
  | unended {line : List Char} (given : line ≠ []) (free : '\n' ∉ line) : IsLines line [line]
  | lineFeed {line rest : List Char} {later : List (List Char)} (free : '\n' ∉ line)
      (plain : line.getLast? ≠ some '\r') :
      IsLines rest later → IsLines (line ++ '\n' :: rest) (line :: later)
  | carriageReturn {line rest : List Char} {later : List (List Char)} (free : '\n' ∉ line) :
      IsLines rest later → IsLines (line ++ '\r' :: '\n' :: rest) (line :: later)

/-- A line that is ended by a line feed, without a carriage return before that. -/
def withoutReturn (line : List Char) : List Char :=
  if line.getLast? = some '\r' then line.dropLast else line

theorem withoutReturn_of_plain {line : List Char} (plain : line.getLast? ≠ some '\r') :
    withoutReturn line = line :=
  if_neg plain

theorem withoutReturn_concat (line : List Char) : withoutReturn (line ++ ['\r']) = line := by
  simp [withoutReturn]

/-- A text without a line feed is a line, if there is anything in it. -/
theorem lines_of_notMem {chars : List Char} (free : '\n' ∉ chars) :
    lines chars = if chars = [] then [] else [chars] := by
  unfold lines
  rw [splitAt_of_notMem free]
  cases chars <;> rfl

/-- What stands before the first line feed is a line. -/
theorem lines_append {line : List Char} (free : '\n' ∉ line) (rest : List Char) :
    lines (line ++ '\n' :: rest) = withoutReturn line :: lines rest := by
  unfold lines
  rw [splitAt_append free]
  cases found : splitAt '\n' rest with
  | nil => exact absurd found (splitAt_ne_nil _ _)
  | cons part parts =>
    dsimp only
    rw [List.getLast?_cons_cons, List.dropLast_cons_cons, List.map_cons]
    cases (part :: parts).getLast? with
    | none => rfl
    | some last => cases last <;> rfl

theorem isLines_lines (chars : List Char) : IsLines chars (lines chars) := by
  -- By induction on the length: what follows the first line feed is shorter.
  induction size : chars.length using Nat.strongRecOn generalizing chars with
  | _ size ih =>
    by_cases fed : '\n' ∈ chars
    · obtain ⟨line, rest, rfl, free⟩ := List.eq_append_cons_of_mem fed
      have later := ih rest.length (by simp [← size]; omega) rest rfl
      rw [lines_append free]
      by_cases ended : line.getLast? = some '\r'
      · obtain ⟨front, rfl⟩ := List.getLast?_eq_some_iff.mp ended
        rw [withoutReturn_concat, List.append_assoc]
        exact .carriageReturn (fun member => free (List.mem_append_left _ member)) later
      · rw [withoutReturn_of_plain ended]
        exact .lineFeed free ended later
    · rw [lines_of_notMem fed]
      by_cases empty : chars = []
      · subst empty
        exact .nothing
      · rw [if_neg empty]
        exact .unended empty fed

/-- **The lines that are found are those of the text.** -/
theorem lines_eq_iff {chars : List Char} {found : List (List Char)} :
    lines chars = found ↔ IsLines chars found := by
  constructor
  · rintro rfl
    exact isLines_lines chars
  · intro are
    induction are with
    | nothing => rfl
    | unended given free => rw [lines_of_notMem free, if_neg given]
    | lineFeed free plain _ ih => rw [lines_append free, withoutReturn_of_plain plain, ih]
    | @carriageReturn line rest later free _ ih =>
      have whole : '\n' ∉ line ++ ['\r'] := by simp [free]
      rw [← List.singleton_append, ← List.append_assoc, lines_append whole, withoutReturn_concat,
        ih]

/-! ### Lines that mount a node -/

/-- **The line mounts the node of a device at a place**: it has ten fields or more, parted by single
spaces, of which the fourth ends with the device's name and the fifth is the place. -/
def Mounts (kernelName : String) (line : List Char) (place : String) : Prop :=
  ∃ fields root, IsSplit ' ' line fields ∧ 10 ≤ fields.length ∧ fields[3]? = some root ∧
    EndsIn root kernelName.toList ∧ fields[4]? = some place.toList

theorem mountPoint?_eq_some_iff {kernelName place : String} {line : List Char} :
    mountPoint? kernelName line = some place ↔ Mounts kernelName line place := by
  constructor
  · intro found
    unfold mountPoint? at found
    dsimp only at found
    split at found
    · cases found
    · rename_i many
      split at found
      · rename_i root mounted isRoot isMounted
        split at found
        · rename_i ends
          cases found
          refine ⟨_, root, splitAt_eq_iff.mp rfl, Nat.le_of_not_lt many, isRoot, ?_, ?_⟩
          · simpa using fileName?_eq_some_iff.mp ends
          · rw [isMounted, String.toList_ofList]
        · cases found
      · cases found
  · rintro ⟨fields, root, split, many, isRoot, ends, isPlace⟩
    have named : fileName? (String.ofList root) = some kernelName :=
      fileName?_eq_some_iff.mpr (by rwa [String.toList_ofList])
    unfold mountPoint?
    simp only [splitAt_eq_iff.mpr split, if_neg (Nat.not_lt.mpr many), isRoot, isPlace, named,
      if_true, String.ofList_toList]

/-- The line mounts the node of a device somewhere. -/
def IsMount (kernelName : String) (line : List Char) : Prop :=
  ∃ place, Mounts kernelName line place

theorem isSome_mountPoint?_iff {kernelName : String} {line : List Char} :
    (mountPoint? kernelName line).isSome = true ↔ IsMount kernelName line := by
  rw [Option.isSome_iff_exists]
  exact exists_congr fun place => mountPoint?_eq_some_iff

instance (kernelName : String) (line : List Char) : Decidable (IsMount kernelName line) :=
  decidable_of_iff _ isSome_mountPoint?_iff

theorem mountPoint?_eq_none {kernelName : String} {line : List Char}
    (other : ¬ IsMount kernelName line) : mountPoint? kernelName line = none := by
  rw [← isSome_mountPoint?_iff] at other
  simpa using other

/-! ### The lookup -/

/-- The place is that of the first line that mounts the node of a device. -/
def IsFirstMount (kernelName : String) (table : List (List Char)) (place : String) : Prop :=
  ∃ before line after, table = before ++ line :: after ∧ Mounts kernelName line place ∧
    ∀ other ∈ before, ¬ IsMount kernelName other

/-- **The lookup gives the place of the first line that mounts the node.** -/
theorem findBindMount_eq_some_iff {table kernelName place : String} :
    findBindMount table kernelName = some place ↔
      kernelName ≠ "" ∧ IsFirstMount kernelName (lines table.toList) place := by
  unfold findBindMount
  by_cases empty : kernelName = ""
  · subst empty
    exact iff_of_false (by simp) (by simp)
  · rw [if_neg (by simpa using empty), List.findSome?_eq_some_iff, and_iff_right empty]
    constructor
    · rintro ⟨before, line, after, split, found, none⟩
      refine ⟨before, line, after, split, mountPoint?_eq_some_iff.mp found, fun other member => ?_⟩
      rw [← isSome_mountPoint?_iff, none other member]
      exact Bool.false_ne_true
    · rintro ⟨before, line, after, split, mounts, none⟩
      exact ⟨before, line, after, split, mountPoint?_eq_some_iff.mpr mounts, fun other member =>
        mountPoint?_eq_none (none other member)⟩

/-- Lines that do not mount the node are passed over by the lookup. -/
theorem findSome?_filter (kernelName : String) (table : List (List Char)) :
    (table.filter fun line => decide (IsMount kernelName line)).findSome?
        (mountPoint? kernelName) = table.findSome? (mountPoint? kernelName) := by
  induction table with
  | nil => rfl
  | cons line table ih =>
    by_cases mounts : IsMount kernelName line
    · rw [List.filter_cons_of_pos (by simpa using mounts), List.findSome?_cons, ih,
        List.findSome?_cons]
    · rw [List.filter_cons_of_neg (by simpa using mounts), ih, List.findSome?_cons,
        mountPoint?_eq_none mounts]

/-- **Lines that do not mount the node make no difference**: tables whose other lines are the same,
in the same order, give the same result. -/
theorem findBindMount_congr {first second kernelName : String}
    (same : (lines first.toList).filter (fun line => decide (IsMount kernelName line)) =
      (lines second.toList).filter fun line => decide (IsMount kernelName line)) :
    findBindMount first kernelName = findBindMount second kernelName := by
  unfold findBindMount
  rw [← findSome?_filter kernelName (lines first.toList), same, findSome?_filter]

example : findBindMount "1 2 3 /sdb /a\r\n1 2 3 /x/sdb/. /b 6 7 8 9 10\r\n" "sdb" = some "/b" := by
  decide +kernel

/-- **A name with a slash in it is never found.** -/
theorem findBindMount_of_slash (table : String) {kernelName : String}
    (slash : '/' ∈ kernelName.toList) : findBindMount table kernelName = none := by
  rw [Option.eq_none_iff_forall_ne_some]
  intro place found
  obtain ⟨-, before, line, after, -, ⟨fields, root, -, -, -, ends, -⟩, -⟩ :=
    findBindMount_eq_some_iff.mp found
  exact ends.free slash

/-- The lines that mount the node of a device are the same, in the same order. -/
def SameMounts (kernelName : String) (first second : List (List Char)) : Prop :=
  first.filter (fun line => decide (IsMount kernelName line)) =
    second.filter fun line => decide (IsMount kernelName line)

/-- What is known of looking up a device in a mount table. -/
structure MountLookup (table kernelName : String) : Prop where
  /-- There are lines that the text consists of, and only these. -/
  hasLines : ∃ table', IsLines table.toList table' ∧
    ∀ other, IsLines table.toList other → other = table'
  /-- The place of the first line that mounts the node is found, and nothing else. -/
  found : ∀ lines, IsLines table.toList lines → ∀ place,
    findBindMount table kernelName = some place ↔
      kernelName ≠ "" ∧ IsFirstMount kernelName lines place
  /-- Other lines make no difference. -/
  lineByLine : ∀ other lines others, IsLines table.toList lines → IsLines other.toList others →
    SameMounts kernelName lines others →
    findBindMount other kernelName = findBindMount table kernelName
  /-- A name with a slash in it is not found. -/
  slash : '/' ∈ kernelName.toList → findBindMount table kernelName = none

/-- **Looking up a bind mount is sound, complete and goes line by line.** -/
theorem mount_lookup (table kernelName : String) : MountLookup table kernelName where
  hasLines := ⟨_, isLines_lines _, fun _ others => (lines_eq_iff.mpr others).symm⟩
  found lines are place := by
    rw [findBindMount_eq_some_iff, lines_eq_iff.mpr are]
  lineByLine other lines others are otherAre same := by
    refine findBindMount_congr ?_
    rw [lines_eq_iff.mpr are, lines_eq_iff.mpr otherAre]
    exact same.symm
  slash := findBindMount_of_slash table

end NodeStorage.Host
