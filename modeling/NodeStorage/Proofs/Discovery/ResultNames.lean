/-
**One name for one node's result.**

A result is named after its node's name or, where that is too long, after half of its digest, in
hexadecimal. The names are short enough for the cluster (`utf8ByteSize_nameFor`), and two nodes have
results of one name in two cases only: the names of both are too long and the halves of their
digests are the same, or the name of one spells the half of the other's digest (`nameFor_eq_iff`).
-/

import NodeStorage.Discovery.Resource
import NodeStorage.Proofs.Text.Hexadecimal

namespace NodeStorage

/-! ### The length of a digest -/

theorem Digest.length_bigEndian (count value : Nat) : (bigEndian count value).length = count := by
  rw [bigEndian, List.length_map, List.length_reverse, List.length_range]

theorem Digest.length_sha256 (message : List UInt8) : (sha256 message).length = 32 := by
  simp [sha256, HashState.words, length_bigEndian]

namespace Discovery.ResultObject

open Text

/-! ### The name of a result -/

/-- The first half of the digest of a node's name. -/
def halfDigest (nodeName : String) : List UInt8 :=
  (Digest.sha256 (encodeUtf8 nodeName)).take 16

theorem length_halfDigest (nodeName : String) : (halfDigest nodeName).length = 16 := by
  rw [halfDigest, List.length_take, Digest.length_sha256]
  rfl

theorem utf8ByteSize_shortDigest (nodeName : String) :
    (shortDigest nodeName).utf8ByteSize = 32 := by
  rw [shortDigest, utf8ByteSize_toHexadecimal]
  exact congrArg (2 * ·) (length_halfDigest nodeName)

theorem utf8ByteSize_nameStart_append (rest : String) :
    (nameStart ++ rest).utf8ByteSize = 17 + rest.utf8ByteSize := by
  rw [String.utf8ByteSize_append]
  rfl

theorem nameFor_of_short {nodeName : String} (short : nodeName.utf8ByteSize ≤ 236) :
    nameFor nodeName = nameStart ++ nodeName := by
  have fits : (nameStart ++ nodeName).utf8ByteSize ≤ longestName := by
    rw [utf8ByteSize_nameStart_append, longestName]
    omega
  exact if_pos fits

theorem nameFor_of_long {nodeName : String} (long : 236 < nodeName.utf8ByteSize) :
    nameFor nodeName = nameStart ++ shortDigest nodeName := by
  have tooLong : ¬ (nameStart ++ nodeName).utf8ByteSize ≤ longestName := by
    rw [utf8ByteSize_nameStart_append, longestName]
    omega
  exact if_neg tooLong

/-- What follows the start that all names have in common. -/
theorem exists_nameFor_eq_append (nodeName : String) :
    ∃ rest, nameFor nodeName = nameStart ++ rest ∧ rest.utf8ByteSize ≤ 236 := by
  by_cases short : nodeName.utf8ByteSize ≤ 236
  · exact ⟨nodeName, nameFor_of_short short, short⟩
  · refine ⟨_, nameFor_of_long (Nat.lt_of_not_le short), ?_⟩
    rw [utf8ByteSize_shortDigest]
    decide

theorem utf8ByteSize_nameFor (nodeName : String) : (nameFor nodeName).utf8ByteSize ≤ 253 := by
  obtain ⟨rest, same, fits⟩ := exists_nameFor_eq_append nodeName
  rw [same, utf8ByteSize_nameStart_append]
  omega

/-! ### Results of one name -/

/-- **The name of a node spells half of the digest of another one**, whose name is too long. -/
structure Spells (nodeName other : String) : Prop where
  long : 236 < other.utf8ByteSize
  short : nodeName.utf8ByteSize = 32
  digits : IsHexadecimal (halfDigest other) nodeName.toList

theorem spells_iff {nodeName other : String} (long : 236 < other.utf8ByteSize) :
    Spells nodeName other ↔ shortDigest other = nodeName := by
  have digits : shortDigest other = nodeName ↔
      IsHexadecimal (halfDigest other) nodeName.toList := toHexadecimal_eq_iff
  refine ⟨fun spells => digits.mpr spells.digits, fun same => ?_⟩
  exact ⟨long, same ▸ utf8ByteSize_shortDigest other, digits.mp same⟩

/-- **Two nodes whose results have one name** though they may not be the same. -/
inductive Clash (first second : String) : Prop
  | digests (firstLong : 236 < first.utf8ByteSize) (secondLong : 236 < second.utf8ByteSize)
      (same : halfDigest first = halfDigest second)
  | firstSpells (spells : Spells first second)
  | secondSpells (spells : Spells second first)

theorem Spells.nameFor_eq {nodeName other : String} (spells : Spells nodeName other) :
    nameFor nodeName = nameFor other := by
  have short : nodeName.utf8ByteSize ≤ 236 := by
    rw [spells.short]
    decide
  rw [nameFor_of_short short, nameFor_of_long spells.long, (spells_iff spells.long).mp spells]

theorem spells_of_nameFor_eq {nodeName other : String} (short : nodeName.utf8ByteSize ≤ 236)
    (long : 236 < other.utf8ByteSize) (same : nameFor nodeName = nameFor other) :
    Spells nodeName other := by
  rw [nameFor_of_short short, nameFor_of_long long, String.append_right_inj] at same
  exact (spells_iff long).mpr same.symm

/-- **Results have one name exactly if they are of one node or the names of their nodes clash.** -/
theorem nameFor_eq_iff {first second : String} :
    nameFor first = nameFor second ↔ first = second ∨ Clash first second := by
  constructor
  · intro same
    rcases Nat.lt_or_ge 236 first.utf8ByteSize with firstLong | firstShort <;>
      rcases Nat.lt_or_ge 236 second.utf8ByteSize with secondLong | secondShort
    · rw [nameFor_of_long firstLong, nameFor_of_long secondLong, String.append_right_inj] at same
      exact Or.inr (.digests firstLong secondLong (toHexadecimal_inj.mp same))
    · exact Or.inr (.secondSpells (spells_of_nameFor_eq secondShort firstLong same.symm))
    · exact Or.inr (.firstSpells (spells_of_nameFor_eq firstShort secondLong same))
    · rw [nameFor_of_short firstShort, nameFor_of_short secondShort,
        String.append_right_inj] at same
      exact Or.inl same
  · rintro (rfl | ⟨firstLong, secondLong, same⟩ | spells | spells)
    · rfl
    · rw [nameFor_of_long firstLong, nameFor_of_long secondLong]
      exact congrArg (nameStart ++ toHexadecimal ·) same
    · exact spells.nameFor_eq
    · exact spells.nameFor_eq.symm

/-- What is known of the name of a node's result. -/
structure NamesResult (nodeName name : String) : Prop where
  begins : "discovery-result-".toList <+: name.toList
  fits : name.utf8ByteSize ≤ 253
  /-- The node's name is kept wherever it fits. -/
  plain : ("discovery-result-" ++ nodeName).utf8ByteSize ≤ 253 →
    name = "discovery-result-" ++ nodeName
  /-- Digests are of thirty-two bytes, so there is a first half of sixteen bytes. -/
  digest : (Digest.sha256 (encodeUtf8 nodeName)).length = 32
  /-- Another node has a result of the same name exactly if the names of the two clash. -/
  shared : ∀ other, other ≠ nodeName → (nameFor other = name ↔ Clash nodeName other)

/-- **The name of a result fits and tells its node**, but for clashes. -/
theorem name_tells_node (nodeName : String) : NamesResult nodeName (nameFor nodeName) where
  begins := by
    obtain ⟨rest, same, -⟩ := exists_nameFor_eq_append nodeName
    rw [same, String.toList_append]
    exact List.prefix_append _ _
  fits := utf8ByteSize_nameFor nodeName
  plain fits := if_pos fits
  digest := Digest.length_sha256 _
  shared other different := by
    rw [eq_comm, nameFor_eq_iff, or_iff_right different.symm]

end Discovery.ResultObject

end NodeStorage
