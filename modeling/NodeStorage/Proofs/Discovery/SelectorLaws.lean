/-
**Laws of node selectors.**

A term fits a node when it has a requirement, on labels or on fields, and the node meets all of them
(`SelectorTerm.fits_iff`). So a selector is told by which terms, requirements and values it has, in
whatever order and however often (`NodeSelector.Same.fits_eq`); more terms mean more nodes, and more
requirements mean fewer if there is one to begin with. The laws of a single requirement are those of
a selector that has no other (`NodeSelector.only`): two pairs of operators are opposites, and two
compare numbers (`Compares`).

`selector_laws` — **these laws hold for every selector and node.**
-/

import NodeStorage.Discovery.NodeSelector
import NodeStorage.Proofs.Text.Digits

namespace NodeStorage.Discovery

/-! ### Where requirements look -/

/-- What a requirement is on. -/
inductive Place where
  | labels | fields

/-- What a node has under a key. -/
def Node.value? (node : Node) : Place → String → Option String
  | .labels, key => Cluster.TextMap.lookup? key node.labels
  | .fields, key => node.field? key

/-- The node meets the requirement. -/
def Requirement.isMetIn (requirement : Requirement) (place : Place) (node : Node) : Bool :=
  requirement.isMetBy (node.value? place requirement.key)

/-- The requirements of a term in one place. -/
def SelectorTerm.requirements (term : SelectorTerm) : Place → List Requirement
  | .labels => term.onLabels
  | .fields => term.onFields

/-- The term has a requirement in some place. -/
def SelectorTerm.IsGiven (term : SelectorTerm) : Prop :=
  ∃ place, term.requirements place ≠ []

theorem SelectorTerm.isGiven_iff {term : SelectorTerm} :
    term.IsGiven ↔ (!(term.onLabels.isEmpty && term.onFields.isEmpty)) = true := by
  rw [Bool.not_eq_true', Bool.and_eq_false_iff, List.isEmpty_eq_false_iff,
    List.isEmpty_eq_false_iff]
  constructor
  · rintro ⟨_ | _, given⟩
    · exact Or.inl given
    · exact Or.inr given
  · rintro (given | given)
    · exact ⟨.labels, given⟩
    · exact ⟨.fields, given⟩

/-- **A term fits when it has requirements and all of them are met.** -/
theorem SelectorTerm.fits_iff {term : SelectorTerm} {node : Node} :
    term.fits node = true ↔ term.IsGiven ∧ ∀ place, ∀ requirement ∈ term.requirements place,
      requirement.isMetIn place node = true := by
  rw [SelectorTerm.fits, Bool.and_eq_true, Bool.and_eq_true, List.all_eq_true, List.all_eq_true,
    isGiven_iff, and_assoc]
  refine and_congr_right fun _ => ⟨fun ⟨labels, fields⟩ place => ?_,
    fun all => ⟨all .labels, all .fields⟩⟩
  cases place with
  | labels => exact labels
  | fields => exact fields

theorem NodeSelector.fits_iff {selector : NodeSelector} {node : Node} :
    selector.fits node = true ↔ ∃ term ∈ selector.terms, term.fits node = true :=
  List.any_eq_true

/-! ### Order and repetition -/

/-- Each element of either list is the same as some element of the other, so the lists differ in
order and repetitions only. -/
def SameElements {α : Type} (same : α → α → Prop) (first second : List α) : Prop :=
  (∀ element ∈ first, ∃ other ∈ second, same element other) ∧
    ∀ other ∈ second, ∃ element ∈ first, same element other

/-- The requirements are the same up to the order and repetition of the values in a list that a
value must or must not be in. -/
structure Requirement.Same (first second : Requirement) : Prop where
  key : first.key = second.key
  operator : first.operator = second.operator
  values : first.values = second.values ∨
    (first.operator = .isIn ∨ first.operator = .notIn) ∧
      ∀ value, value ∈ first.values ↔ value ∈ second.values

/-- The terms are the same up to order and repetition in each of their lists. -/
def SelectorTerm.Same (first second : SelectorTerm) : Prop :=
  ∀ place, SameElements Requirement.Same (first.requirements place) (second.requirements place)

/-- **The selectors are the same up to order and repetition**, at every level. -/
def NodeSelector.Same (first second : NodeSelector) : Prop :=
  SameElements SelectorTerm.Same first.terms second.terms

theorem Requirement.Same.isMetIn_eq {first second : Requirement} (same : first.Same second)
    (place : Place) (node : Node) : first.isMetIn place node = second.isMetIn place node := by
  obtain ⟨key, operator, values⟩ := first
  obtain ⟨otherKey, otherOperator, otherValues⟩ := second
  obtain ⟨rfl, rfl, rfl | ⟨isList, members⟩⟩ := same
  · rfl
  · have contains : ∀ value, values.contains value = otherValues.contains value := fun value => by
      rw [Bool.eq_iff_iff, List.contains_iff_mem, List.contains_iff_mem]
      exact members value
    rcases isList with rfl | rfl <;>
      simp only [Requirement.isMetIn, Requirement.isMetBy, contains]

theorem SelectorTerm.Same.fits_of_fits {first second : SelectorTerm} (same : first.Same second)
    {node : Node} (fits : first.fits node = true) : second.fits node = true := by
  obtain ⟨⟨place, given⟩, met⟩ := fits_iff.mp fits
  obtain ⟨requirement, member⟩ := List.exists_mem_of_ne_nil _ given
  obtain ⟨other, there, -⟩ := (same place).1 requirement member
  refine fits_iff.mpr ⟨⟨place, List.ne_nil_of_mem there⟩, fun place other member => ?_⟩
  obtain ⟨requirement, earlier, alike⟩ := (same place).2 other member
  rw [← alike.isMetIn_eq]
  exact met place requirement earlier

theorem Requirement.Same.symm {first second : Requirement} (same : first.Same second) :
    second.Same first :=
  ⟨same.key.symm, same.operator.symm, same.values.imp Eq.symm fun ⟨isList, members⟩ =>
    ⟨same.operator ▸ isList, fun value => (members value).symm⟩⟩

theorem SameElements.symm {α : Type} {same : α → α → Prop}
    (symm : ∀ first second, same first second → same second first) {first second : List α}
    (alike : SameElements same first second) : SameElements same second first :=
  ⟨fun element member => (alike.2 element member).imp fun _ => .imp_right (symm _ _),
    fun other member => (alike.1 other member).imp fun _ => .imp_right (symm _ _)⟩

theorem SelectorTerm.Same.symm {first second : SelectorTerm} (same : first.Same second) :
    second.Same first :=
  fun place => (same place).symm fun _ _ => Requirement.Same.symm

/-- **Order and repetition do not matter.** -/
theorem NodeSelector.Same.fits_eq {first second : NodeSelector} (same : first.Same second)
    (node : Node) : first.fits node = second.fits node := by
  rw [Bool.eq_iff_iff, fits_iff, fits_iff]
  constructor
  · rintro ⟨term, member, fits⟩
    obtain ⟨other, there, alike⟩ := same.1 term member
    exact ⟨other, there, alike.fits_of_fits fits⟩
  · rintro ⟨other, member, fits⟩
    obtain ⟨term, there, alike⟩ := same.2 other member
    exact ⟨term, there, alike.symm.fits_of_fits fits⟩

/-! ### More terms and more requirements -/

/-- **More terms never lose a node.** -/
theorem NodeSelector.fits_mono {terms more : List SelectorTerm} (added : terms ⊆ more) {node : Node}
    (fits : NodeSelector.fits ⟨terms⟩ node = true) : NodeSelector.fits ⟨more⟩ node = true := by
  obtain ⟨term, member, fitting⟩ := fits_iff.mp fits
  exact fits_iff.mpr ⟨term, added member, fitting⟩

/-- **More requirements never win a node**, if there was one. -/
theorem SelectorTerm.fits_of_fits {term more : SelectorTerm} (given : term.IsGiven)
    (added : ∀ place, term.requirements place ⊆ more.requirements place) {node : Node}
    (fits : more.fits node = true) : term.fits node = true :=
  fits_iff.mpr ⟨given, fun place requirement member =>
    (fits_iff.mp fits).2 place requirement (added place member)⟩

/-- Without a requirement a term fits no node. -/
theorem SelectorTerm.fits_eq_false {term : SelectorTerm} (empty : ¬ term.IsGiven) (node : Node) :
    term.fits node = false :=
  Bool.eq_false_iff.mpr fun fits => empty (fits_iff.mp fits).1

/-! ### Single requirements -/

/-- The selector with this requirement and no other. -/
def NodeSelector.only : Place → Requirement → NodeSelector
  | .labels, requirement => ⟨[⟨[requirement], []⟩]⟩
  | .fields, requirement => ⟨[⟨[], [requirement]⟩]⟩

theorem NodeSelector.fits_only (place : Place) (requirement : Requirement) (node : Node) :
    (only place requirement).fits node = requirement.isMetIn place node := by
  cases place <;>
    simp [only, NodeSelector.fits, SelectorTerm.fits, Requirement.isMetIn, Node.value?]

/-- The operator that holds exactly where another does not. -/
inductive Opposite : SelectorOperator → SelectorOperator → Prop
  | list : Opposite .isIn .notIn
  | presence : Opposite .exists .doesNotExist

theorem Requirement.isMetIn_opposite {operator opposite : SelectorOperator}
    (opposed : Opposite operator opposite) (key : String) (values : List String) (place : Place)
    (node : Node) : Requirement.isMetIn ⟨key, opposite, values⟩ place node =
      !Requirement.isMetIn ⟨key, operator, values⟩ place node := by
  rw [Requirement.isMetIn, Requirement.isMetIn]
  generalize node.value? place key = value
  cases opposed <;> cases value <;> simp [Requirement.isMetBy]

/-- **The node has the key, there is one bound, and both texts are signed 64-bit numbers** that
compare in this way. -/
def Compares (holds : Int → Int → Prop) (key : String) (values : List String) (place : Place)
    (node : Node) : Prop :=
  ∃ text limit number bound, node.value? place key = some text ∧ values = [limit] ∧
    Text.IsSigned text number ∧ Text.IsSigned limit bound ∧ holds number bound

theorem Requirement.compared_iff {requirement : Requirement} {value : Option String}
    {holds : Int → Int → Bool} :
    isMetBy.compared requirement value holds = true ↔
      ∃ text limit number bound, value = some text ∧ requirement.values = [limit] ∧
        Text.IsSigned text number ∧ Text.IsSigned limit bound ∧ holds number bound = true := by
  constructor
  · intro met
    unfold isMetBy.compared at met
    split at met
    · rename_i text limit only
      split at met
      · rename_i number bound isNumber isBound
        exact ⟨text, limit, number, bound, rfl, only, Text.signed?_eq_some_iff.mp isNumber,
          Text.signed?_eq_some_iff.mp isBound, met⟩
      · cases met
    · cases met
  · rintro ⟨text, limit, number, bound, rfl, only, isNumber, isBound, met⟩
    have read := Text.signed?_eq_some_iff.mpr isNumber
    have readBound := Text.signed?_eq_some_iff.mpr isBound
    simp only [isMetBy.compared, only, read, readBound, met]

/-- **Numbers compare as numbers**, or the requirement is not met. -/
theorem Requirement.isMetIn_greater (key : String) (values : List String) (place : Place)
    (node : Node) : Requirement.isMetIn ⟨key, .greater, values⟩ place node = true ↔
      Compares (fun number bound => bound < number) key values place node := by
  rw [Requirement.isMetIn, Requirement.isMetBy, compared_iff]
  simp only [decide_eq_true_iff, Compares]

theorem Requirement.isMetIn_less (key : String) (values : List String) (place : Place)
    (node : Node) : Requirement.isMetIn ⟨key, .less, values⟩ place node = true ↔
      Compares (fun number bound => number < bound) key values place node := by
  rw [Requirement.isMetIn, Requirement.isMetBy, compared_iff]
  simp only [decide_eq_true_iff, Compares]

/-- No number is both above and below a bound. -/
theorem Compares.not_both {key : String} {values : List String} {place : Place} {node : Node}
    (greater : Compares (fun number bound => bound < number) key values place node)
    (less : Compares (fun number bound => number < bound) key values place node) : False := by
  obtain ⟨text, limit, number, bound, has, only, isNumber, isBound, above⟩ := greater
  obtain ⟨_, _, other, otherBound, alsoHas, alsoOnly, isOther, isOtherBound, below⟩ := less
  cases has.symm.trans alsoHas
  cases only.symm.trans alsoOnly
  have same {text : String} {first second : Int} (one : Text.IsSigned text first)
      (two : Text.IsSigned text second) : first = second :=
    Option.some.inj ((Text.signed?_eq_some_iff.mpr one).symm.trans
      (Text.signed?_eq_some_iff.mpr two))
  rw [same isNumber isOther, same isBound isOtherBound] at above
  exact absurd above (Int.lt_asymm below)

/-! ### The laws -/

/-- **What holds of all selectors for a node.** -/
structure SelectorLaws (node : Node) : Prop where
  /-- Order and repetition do not matter, at any level. -/
  same : ∀ first second : NodeSelector, first.Same second → first.fits node = second.fits node
  /-- More terms never lose the node. -/
  moreTerms : ∀ terms more : List SelectorTerm, terms ⊆ more →
    NodeSelector.fits ⟨terms⟩ node = true → NodeSelector.fits ⟨more⟩ node = true
  /-- More requirements never win the node for a term that has one. -/
  moreRequirements : ∀ term more : SelectorTerm, term.IsGiven →
    (∀ place, term.requirements place ⊆ more.requirements place) →
    term.fits node = false → more.fits node = false
  /-- A term without requirements does not fit the node. -/
  noRequirements : ∀ term : SelectorTerm, ¬ term.IsGiven → term.fits node = false
  /-- An operator and its opposite never answer the same. -/
  opposite : ∀ operator opposite, Opposite operator opposite → ∀ place key values,
    (NodeSelector.only place ⟨key, opposite, values⟩).fits node =
      !(NodeSelector.only place ⟨key, operator, values⟩).fits node
  /-- What is above a bound. -/
  greater : ∀ place key values,
    (NodeSelector.only place ⟨key, .greater, values⟩).fits node = true ↔
      Compares (fun number bound => bound < number) key values place node
  /-- What is below a bound. -/
  less : ∀ place key values,
    (NodeSelector.only place ⟨key, .less, values⟩).fits node = true ↔
      Compares (fun number bound => number < bound) key values place node
  /-- The node is not on both sides of a bound. -/
  notBoth : ∀ place key values,
    ¬ ((NodeSelector.only place ⟨key, .greater, values⟩).fits node = true ∧
      (NodeSelector.only place ⟨key, .less, values⟩).fits node = true)

/-- **The laws of node selectors.** -/
theorem selector_laws (node : Node) : SelectorLaws node where
  same _ _ same := same.fits_eq node
  moreTerms _ _ added := NodeSelector.fits_mono added
  moreRequirements term more given added unfit := by
    rw [Bool.eq_false_iff] at unfit ⊢
    exact fun fits => unfit (SelectorTerm.fits_of_fits given added fits)
  noRequirements _ empty := SelectorTerm.fits_eq_false empty node
  opposite operator opposite opposed place key values := by
    rw [NodeSelector.fits_only, NodeSelector.fits_only]
    exact Requirement.isMetIn_opposite opposed key values place node
  greater place key values := by
    rw [NodeSelector.fits_only]
    exact Requirement.isMetIn_greater key values place node
  less place key values := by
    rw [NodeSelector.fits_only]
    exact Requirement.isMetIn_less key values place node
  notBoth place key values := by
    rintro ⟨above, below⟩
    rw [NodeSelector.fits_only] at above below
    exact ((Requirement.isMetIn_greater ..).mp above).not_both
      ((Requirement.isMetIn_less ..).mp below)

/-- A sign counts, and the bound may be the largest number. -/
example : (NodeSelector.only .labels ⟨"disks", .less, ["+9223372036854775807"]⟩).fits
    ⟨"worker-0", [("disks", "-012")]⟩ = true := by
  decide

end NodeStorage.Discovery
