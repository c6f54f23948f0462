/-
**Whose manifests may be fetched.**

At the host of the manifests an address goes on with the name of an organisation, which ends at a
slash, a question mark, a number sign or the end of the address (`IsKeptBy`). A manifest may be
fetched exactly if this name begins with the name of the project (`isManifestAllowed_iff`): the name
need not end there, so other organisations are let in with the project (`longer_name_allowed`).

It makes no difference that all of Unicode is trimmed and made small: an address is let in exactly
if it would be with the capitals of ASCII made small only (`isManifestAllowed_iff_ascii`), so no
other letters pass for those of the host.
-/

import Mathlib.Data.List.TakeWhile
import NodeStorage.Proofs.Text.Case
import NodeStorage.Registry.Image

namespace NodeStorage.Registry

open Text

/-- The address as it is compared: trimmed and in small letters. -/
def compared (address : String) : List Char :=
  (lowercase (trim address)).toList

/-- The name of the project, as an organisation. -/
def project : List Char :=
  "openshift-storage-scale".toList

/-- What ends a name in an address. -/
def endsName (c : Char) : Bool :=
  c == '/' || c == '?' || c == '#'

/-- **The address leads to what an organisation keeps**: the host, and then the organisation's name
up to what ends it. -/
structure IsKeptBy (organisation address : List Char) : Prop where
  split : ∃ rest, address = "https://raw.githubusercontent.com/".toList ++ organisation ++ rest ∧
    ∀ c ∈ rest.head?, endsName c = true
  free : ∀ c ∈ organisation, endsName c = false

/-- **An address leads to one organisation.** -/
theorem IsKeptBy.unique {first second address : List Char} (kept : IsKeptBy first address)
    (also : IsKeptBy second address) : first = second := by
  have name {organisation rest : List Char} (free : ∀ c ∈ organisation, endsName c = false)
      (ended : ∀ c ∈ rest.head?, endsName c = true) :
      (organisation ++ rest).takeWhile (fun c => !endsName c) = organisation := by
    rw [List.takeWhile_append_of_pos (by simpa using free)]
    cases rest with
    | nil => simp
    | cons c rest => simp [ended c rfl]
  obtain ⟨⟨rest, whole, ended⟩, free⟩ := kept
  obtain ⟨⟨others, again, alsoEnded⟩, alsoFree⟩ := also
  rw [whole, List.append_assoc, List.append_assoc, List.append_cancel_left_eq] at again
  rw [← name free ended, again, name alsoFree alsoEnded]

theorem toList_manifestSource :
    manifestSource.toList = "https://raw.githubusercontent.com/".toList ++ project := by
  decide

theorem isManifestAllowed_iff_starts {address : String} :
    isManifestAllowed address = true ↔ manifestSource.toList <+: compared address :=
  List.isPrefixOf_iff_prefix

/-- **A manifest may be fetched exactly if the name of its organisation begins with the project's.**
-/
theorem isManifestAllowed_iff {address : String} :
    isManifestAllowed address = true ↔ ∃ more, IsKeptBy (project ++ more) (compared address) := by
  rw [isManifestAllowed_iff_starts, toList_manifestSource]
  constructor
  · rintro ⟨rest, whole⟩
    refine ⟨rest.takeWhile fun c => !endsName c, ⟨rest.dropWhile fun c => !endsName c, ?_, ?_⟩, ?_⟩
    · rw [← whole, List.append_assoc, List.append_assoc, List.append_assoc,
        List.takeWhile_append_dropWhile]
    · intro c first
      have ends := List.head?_dropWhile_not (fun c => !endsName c) rest
      rw [Option.mem_def.mp first] at ends
      simpa using ends
    · intro c member
      have projectFree : ∀ c ∈ project, endsName c = false :=
        List.forall_iff_forall_mem.mp (by decide)
      rcases List.mem_append.mp member with own | more
      · exact projectFree c own
      · have free := List.mem_takeWhile_imp more
        simpa using free
  · rintro ⟨more, ⟨rest, whole, -⟩, -⟩
    exact ⟨more ++ rest, by rw [whole]; simp⟩

/-- **Letters beyond those of ASCII do not pass for letters of the source.** -/
theorem isManifestAllowed_iff_ascii {address : String} :
    isManifestAllowed address = true ↔
      manifestSource.toList <+: asciiLowercase (trim address).toList := by
  rw [isManifestAllowed_iff_starts, compared, lowercase, String.toList_ofList]
  exact prefix_lowercaseAfter_iff (List.forall_iff_forall_mem.mp (by decide)) (by decide)

/-- What is known of the addresses from which manifests may be fetched. -/
structure FetchRule (address : String) : Prop where
  /-- The organisation has the project's name, or one that goes on behind it. -/
  allowed : isManifestAllowed address = true ↔
    ∃ more, IsKeptBy (project ++ more) (compared address)
  /-- It is the project itself exactly if its name does not go on. -/
  own : ∀ more, IsKeptBy (project ++ more) (compared address) →
    (IsKeptBy project (compared address) ↔ more = [])
  /-- The address itself begins with the source, but for capitals of ASCII. -/
  letters : isManifestAllowed address = true ↔
    manifestSource.toList <+: asciiLowercase (trim address).toList

/-- **Manifests are fetched from organisations whose names begin with the project's**, and from
nowhere else. -/
theorem fetch_rule (address : String) : FetchRule address where
  allowed := isManifestAllowed_iff
  own more kept := by
    constructor
    · intro own
      exact List.append_right_eq_self.mp (kept.unique own)
    · rintro rfl
      rwa [List.append_nil] at kept
  letters := isManifestAllowed_iff_ascii

/-- The address of a manifest that another organisation keeps. -/
def foreignAddress : String :=
  "https://raw.githubusercontent.com/openshift-storage-scale-evil/x"

theorem compared_foreignAddress : compared foreignAddress = foreignAddress.toList := by
  have trimmed : trim foreignAddress = foreignAddress := by decide
  have small : ∀ c ∈ foreignAddress.toList, c.toNat < 0x80 ∧ c.toLower = c :=
    List.forall_iff_forall_mem.mp (by decide)
  rw [compared, trimmed, lowercase_eq_self fun c member =>
    isSmall_of_ascii (small c member).1 (small c member).2]

theorem foreignAddress_kept : IsKeptBy (project ++ "-evil".toList) (compared foreignAddress) where
  split := by
    refine ⟨"/x".toList, by rw [compared_foreignAddress]; decide, ?_⟩
    rintro c ⟨⟩
    rfl
  free := List.forall_iff_forall_mem.mp (by decide)

/-- **Another organisation's manifest may be fetched**, as its name begins with the project's. -/
theorem longer_name_allowed :
    isManifestAllowed foreignAddress = true ∧ ¬ IsKeptBy project (compared foreignAddress) := by
  refine ⟨isManifestAllowed_iff.mpr ⟨_, foreignAddress_kept⟩, fun own => ?_⟩
  have same := foreignAddress_kept.unique own
  exact absurd same (by decide)

end NodeStorage.Registry
