/-
**The search follows every way through a pattern.**

What a pattern describes is said by a relation between the gaps of a text: the gaps to which it
leads from a gap (`Leads`). A search starts everywhere at once and keeps sets of gaps; each part of
a pattern takes a set to the set of all gaps that are led to from there (`Follows`).

Two things in it need a reason. A repetition without limit goes on until the set stops growing, but
no more often than there are gaps: a pattern never leads backwards, so rounds that stay where they
are can be left out, and there are at most as many others as characters. And a search stops early
where the set is empty or full, which changes nothing.

* `times_forward` — a way in any number of rounds is a way in few.
* `follows_iterate`, `follows_saturate` — the two loops of a repetition.
* `follows_reach` — **a search follows every pattern.**
* `occursIn_iff` — a pattern occurs in a text exactly if it leads from a gap to a gap.
-/

import NodeStorage.Pattern.Search

namespace NodeStorage.Pattern

/-! ### What a pattern describes -/

/-- So many rounds lead from one gap to the other. -/
def Times (leads : Nat → Nat → Prop) : (rounds : Nat) → Nat → Nat → Prop
  | 0, start, stop => stop = start
  | rounds + 1, start, stop => ∃ middle, leads start middle ∧ Times leads rounds middle stop

/-- The pattern leads from one gap of the text to the other; gaps are numbered from the start. -/
def Leads (text : List Char) : Pattern → Nat → Nat → Prop
  | .empty, start, stop => stop = start
  | .one set, start, stop =>
    ∃ c, text[start]? = some c ∧ set.contains c = true ∧ stop = start + 1
  | .condition question letters, start, stop =>
    stop = start ∧ ∃ gap, (gaps text)[start]? = some gap ∧ question.holds letters gap = true
  | .next first second, start, stop =>
    ∃ middle, Leads text first start middle ∧ Leads text second middle stop
  | .either first second, start, stop => Leads text first start stop ∨ Leads text second start stop
  | .repeated least most pattern, start, stop =>
    ∃ more, (∀ limit ∈ most, more ≤ limit - least) ∧
      Times (Leads text pattern) (least + more) start stop

section Times

variable {leads : Nat → Nat → Prop}

theorem times_add {first second start stop : Nat} :
    Times leads (first + second) start stop ↔
      ∃ middle, Times leads first start middle ∧ Times leads second middle stop := by
  induction first generalizing start with
  | zero =>
    rw [Nat.zero_add]
    constructor
    · exact fun way => ⟨start, rfl, way⟩
    · rintro ⟨_, rfl, way⟩
      exact way
  | succ first ih =>
    rw [Nat.succ_add]
    constructor
    · rintro ⟨near, step, way⟩
      obtain ⟨middle, before, after⟩ := ih.mp way
      exact ⟨middle, ⟨near, step, before⟩, after⟩
    · rintro ⟨middle, ⟨near, step, before⟩, after⟩
      exact ⟨near, step, ih.mpr ⟨middle, before, after⟩⟩

theorem le_of_times (forward : ∀ start stop, leads start stop → start ≤ stop)
    {rounds start stop : Nat} (way : Times leads rounds start stop) : start ≤ stop := by
  induction rounds generalizing start with
  | zero => exact Nat.le_of_eq way.symm
  | succ rounds ih =>
    obtain ⟨middle, step, rest⟩ := way
    exact Nat.le_trans (forward start middle step) (ih rest)

/-- **A way in any number of rounds is a way in few**, where no round leads backwards: rounds that
lead nowhere can be left out. -/
theorem times_forward (forward : ∀ start stop, leads start stop → start ≤ stop)
    {rounds start stop : Nat} (way : Times leads rounds start stop) :
    ∃ few ≤ stop - start, Times leads few start stop := by
  induction rounds generalizing start with
  | zero =>
    cases way
    exact ⟨0, Nat.zero_le _, rfl⟩
  | succ rounds ih =>
    obtain ⟨middle, step, rest⟩ := way
    obtain ⟨few, bound, shorter⟩ := ih rest
    have near := forward start middle step
    have far := le_of_times forward shorter
    by_cases stays : middle = start
    · subst stays
      exact ⟨few, bound, shorter⟩
    · exact ⟨few + 1, by omega, middle, step, shorter⟩

end Times

/-- **A pattern leads forwards, and not out of the text.** -/
theorem Leads.forward {text : List Char} {pattern : Pattern} {start stop : Nat}
    (leads : Leads text pattern start stop) :
    start ≤ stop ∧ (start ≤ text.length → stop ≤ text.length) := by
  induction pattern generalizing start stop with
  | empty =>
    cases leads
    exact ⟨Nat.le_refl _, id⟩
  | one set =>
    obtain ⟨c, there, -, rfl⟩ := leads
    have inside := (List.getElem?_eq_some_iff.mp there).1
    exact ⟨Nat.le_succ _, fun _ => inside⟩
  | condition question letters =>
    obtain ⟨rfl, -⟩ := leads
    exact ⟨Nat.le_refl _, id⟩
  | next first second ihFirst ihSecond =>
    obtain ⟨middle, before, after⟩ := leads
    have near := ihFirst before
    have far := ihSecond after
    exact ⟨Nat.le_trans near.1 far.1, fun inside => far.2 (near.2 inside)⟩
  | either first second ihFirst ihSecond =>
    rcases leads with one | other
    · exact ihFirst one
    · exact ihSecond other
  | repeated least most pattern ih =>
    obtain ⟨more, -, way⟩ := leads
    generalize least + more = rounds at way
    induction rounds generalizing start with
    | zero =>
      cases way
      exact ⟨Nat.le_refl _, id⟩
    | succ rounds ihRounds =>
      obtain ⟨middle, step, rest⟩ := way
      have near := ih step
      have far := ihRounds rest
      exact ⟨Nat.le_trans near.1 far.1, fun inside => far.2 (near.2 inside)⟩

/-! ### Sets of gaps -/

/-- The gap is in the set. -/
def Has (places : GapSet) (gap : Nat) : Prop :=
  places[gap]? = some true

theorem Has.lt {places : GapSet} {gap : Nat} (has : Has places gap) : gap < places.length :=
  (List.getElem?_eq_some_iff.mp has).1

theorem exists_has_iff {places : GapSet} : (∃ gap, Has places gap) ↔ places.any id = true := by
  rw [List.any_eq_true]
  constructor
  · rintro ⟨gap, has⟩
    exact ⟨true, List.mem_of_getElem? has, rfl⟩
  · rintro ⟨_, member, rfl⟩
    exact List.getElem?_of_mem member

theorem has_unite {left right : GapSet} (same : left.length = right.length) {gap : Nat} :
    Has (unite left right) gap ↔ Has left gap ∨ Has right gap := by
  rw [Has, unite, List.getElem?_zipWith_eq_some]
  constructor
  · rintro ⟨inLeft, inRight, left, right, either⟩
    rcases Bool.or_eq_true_iff.mp either with rfl | rfl
    · exact Or.inl left
    · exact Or.inr right
  · rintro (has | has)
    · have inside : gap < right.length := same ▸ has.lt
      exact ⟨true, right[gap], has, List.getElem?_eq_getElem inside, Bool.true_or _⟩
    · have inside : gap < left.length := same ▸ has.lt
      exact ⟨left[gap], true, List.getElem?_eq_getElem inside, has, Bool.or_true _⟩

theorem has_advance {set : CharSet} {text : List Char} {places : GapSet} {stop : Nat} :
    Has (advance set text places) stop ↔
      ∃ start, Has places start ∧
        ∃ c, text[start]? = some c ∧ set.contains c = true ∧ stop = start + 1 := by
  cases stop with
  | zero =>
    refine iff_of_false (fun has => ?_) ?_
    · cases has
    · rintro ⟨start, -, c, -, -, impossible⟩
      cases impossible
  | succ before =>
    rw [Has, advance, List.getElem?_cons_succ, List.getElem?_zipWith_eq_some]
    constructor
    · rintro ⟨c, here, there, has, both⟩
      obtain ⟨rfl, member⟩ := Bool.and_eq_true_iff.mp both
      exact ⟨before, has, c, there, member, rfl⟩
    · rintro ⟨start, has, c, there, member, same⟩
      cases same
      exact ⟨c, true, there, has, by rw [member]; rfl⟩

theorem has_keep {question : Condition} {letters : CharSet} {text : List Char} {places : GapSet}
    {gap : Nat} :
    Has (keep question letters text places) gap ↔
      Has places gap ∧
        ∃ around, (gaps text)[gap]? = some around ∧ question.holds letters around = true := by
  rw [Has, keep, List.getElem?_zipWith_eq_some]
  constructor
  · rintro ⟨around, here, there, has, both⟩
    obtain ⟨rfl, holds⟩ := Bool.and_eq_true_iff.mp both
    exact ⟨has, around, there, holds⟩
  · rintro ⟨has, around, there, holds⟩
    exact ⟨around, true, there, has, by rw [holds]; rfl⟩

theorem length_gapsAfter (before : Option Char) (text : List Char) :
    (gapsAfter before text).length = text.length + 1 := by
  induction text generalizing before with
  | nil => rfl
  | cons c text ih => rw [gapsAfter, List.length_cons, ih, List.length_cons]

/-! ### Steps from set to set -/

/-- **The step takes a set of gaps to all gaps that are led to from there.** -/
structure Follows (count : Nat) (step : GapSet → GapSet) (leads : Nat → Nat → Prop) : Prop where
  length : ∀ places, places.length = count → (step places).length = count
  has : ∀ places, places.length = count → ∀ stop,
    Has (step places) stop ↔ ∃ start, Has places start ∧ leads start stop

section Follows

variable {count : Nat} {step : GapSet → GapSet} {leads : Nat → Nat → Prop}

/-- Going on from an empty set is of no use, so a search may stop there. -/
theorem follows_iterate (follows : Follows count step leads) (times : Nat) :
    Follows count (iterate step times) (Times leads times) := by
  induction times with
  | zero =>
    refine ⟨fun _ => id, fun places _ stop => ?_⟩
    constructor
    · exact fun has => ⟨stop, has, rfl⟩
    · rintro ⟨_, has, rfl⟩
      exact has
  | succ times ih =>
    refine ⟨fun places whole => ?_, fun places whole stop => ?_⟩
    · rw [iterate]
      split
      · exact ih.length _ (follows.length places whole)
      · exact whole
    · rw [iterate]
      split
      · rw [ih.has _ (follows.length places whole)]
        simp only [follows.has places whole]
        constructor
        · rintro ⟨middle, ⟨start, has, near⟩, far⟩
          exact ⟨start, has, middle, near, far⟩
        · rintro ⟨start, has, middle, near, far⟩
          exact ⟨middle, ⟨start, has, near⟩, far⟩
      · rename_i nothing
        have empty (gap : Nat) : ¬ Has places gap := fun has =>
          nothing (exists_has_iff.mp ⟨gap, has⟩)
        exact iff_of_false (empty stop) fun ⟨start, has, _⟩ => empty start has

/-- From a set that a step adds nothing to, no number of steps leads out. -/
theorem has_of_times {places : GapSet}
    (closed : ∀ start stop, Has places start → leads start stop → Has places stop)
    {rounds start stop : Nat} (has : Has places start) (way : Times leads rounds start stop) :
    Has places stop := by
  induction rounds generalizing start with
  | zero =>
    cases way
    exact has
  | succ rounds ih =>
    obtain ⟨middle, near, far⟩ := way
    exact ih (closed start middle has near) far

theorem follows_saturate (follows : Follows count step leads) (rounds : Nat) :
    Follows count (saturate step rounds)
      fun start stop => ∃ few ≤ rounds, Times leads few start stop := by
  have grows (places : GapSet) (whole : places.length = count) :
      (unite places (step places)).length = count := by
    rw [unite, List.length_zipWith, follows.length places whole, whole, Nat.min_self]
  have grown (places : GapSet) (whole : places.length = count) (gap : Nat) :
      Has (unite places (step places)) gap ↔
        Has places gap ∨ ∃ start, Has places start ∧ leads start gap := by
    rw [has_unite (whole.trans (follows.length places whole).symm), follows.has places whole]
  induction rounds with
  | zero =>
    refine ⟨fun _ => id, fun places _ stop => ?_⟩
    constructor
    · exact fun has => ⟨stop, has, 0, Nat.le_refl 0, rfl⟩
    · rintro ⟨start, has, few, none, way⟩
      cases Nat.le_zero.mp none
      cases way
      exact has
  | succ rounds ih =>
    refine ⟨fun places whole => ?_, fun places whole stop => ?_⟩
    · rw [saturate]
      split
      · exact whole
      · exact ih.length _ (grows places whole)
    · rw [saturate]
      split
      · rename_i full
        have closed (start stop : Nat) (has : Has places start) (near : leads start stop) :
            Has places stop := by
          rw [← full]
          exact (grown places whole stop).mpr (Or.inr ⟨start, has, near⟩)
        constructor
        · exact fun has => ⟨stop, has, 0, Nat.zero_le _, rfl⟩
        · rintro ⟨start, has, few, -, way⟩
          exact has_of_times closed has way
      · rw [ih.has _ (grows places whole)]
        simp only [grown places whole]
        constructor
        · rintro ⟨middle, has | ⟨start, has, near⟩, few, bound, far⟩
          · exact ⟨middle, has, few, Nat.le_succ_of_le bound, far⟩
          · exact ⟨start, has, few + 1, Nat.succ_le_succ bound, middle, near, far⟩
        · rintro ⟨start, has, few, bound, way⟩
          cases few with
          | zero => exact ⟨start, Or.inl has, 0, Nat.zero_le _, way⟩
          | succ few =>
            obtain ⟨middle, near, far⟩ := way
            exact ⟨middle, Or.inr ⟨start, has, near⟩, few, Nat.le_of_succ_le_succ bound, far⟩

end Follows

/-! ### Patterns -/

/-- **A search follows every pattern.** -/
theorem follows_reach (text : List Char) (pattern : Pattern) :
    Follows (text.length + 1) (reach text pattern) (Leads text pattern) := by
  induction pattern with
  | empty =>
    refine ⟨fun _ => id, fun places _ stop => ?_⟩
    constructor
    · exact fun has => ⟨stop, has, rfl⟩
    · rintro ⟨_, has, rfl⟩
      exact has
  | one set =>
    refine ⟨fun places whole => ?_, fun places _ stop => has_advance⟩
    rw [reach, advance, List.length_cons, List.length_zipWith, whole]
    omega
  | condition question letters =>
    refine ⟨fun places whole => ?_, fun places _ stop => ?_⟩
    · rw [reach, keep, List.length_zipWith, gaps, length_gapsAfter, whole, Nat.min_self]
    · rw [reach, has_keep]
      constructor
      · exact fun ⟨has, holds⟩ => ⟨stop, has, rfl, holds⟩
      · rintro ⟨_, has, rfl, holds⟩
        exact ⟨has, holds⟩
  | next first second ihFirst ihSecond =>
    refine ⟨fun places whole => ihSecond.length _ (ihFirst.length places whole),
      fun places whole stop => ?_⟩
    rw [reach, ihSecond.has _ (ihFirst.length places whole)]
    simp only [ihFirst.has places whole]
    constructor
    · rintro ⟨middle, ⟨start, has, near⟩, far⟩
      exact ⟨start, has, middle, near, far⟩
    · rintro ⟨start, has, middle, near, far⟩
      exact ⟨middle, ⟨start, has, near⟩, far⟩
  | either first second ihFirst ihSecond =>
    refine ⟨fun places whole => ?_, fun places whole stop => ?_⟩
    · rw [reach, unite, List.length_zipWith, ihFirst.length places whole,
        ihSecond.length places whole, Nat.min_self]
    · have same := (ihFirst.length places whole).trans (ihSecond.length places whole).symm
      rw [reach, has_unite same, ihFirst.has places whole, ihSecond.has places whole,
        ← exists_or]
      simp only [← and_or_left]
      rfl
  | repeated least most pattern ih =>
    have first := follows_iterate ih least
    refine ⟨fun places whole => ?_, fun places whole stop => ?_⟩
    · exact (follows_saturate ih _).length _ (first.length places whole)
    · refine ((follows_saturate ih _).has _ (first.length places whole) stop).trans ?_
      simp only [first.has places whole]
      constructor
      · rintro ⟨middle, ⟨start, has, near⟩, few, bound, far⟩
        refine ⟨start, has, few, fun limit is => ?_, times_add.mpr ⟨middle, near, far⟩⟩
        cases is
        exact bound
      · rintro ⟨start, has, more, bound, way⟩
        obtain ⟨middle, near, far⟩ := times_add.mp way
        cases most with
        | some limit => exact ⟨middle, ⟨start, has, near⟩, more, bound limit rfl, far⟩
        | none =>
          have inside : start ≤ text.length := by
            have within := has.lt
            omega
          have leads : Leads text (.repeated least none pattern) start stop := ⟨more, bound, way⟩
          have outside := leads.forward.2 inside
          obtain ⟨few, short, fewer⟩ := times_forward (fun _ _ step => step.forward.1) far
          have enough : few ≤ text.length + 1 := by omega
          exact ⟨middle, ⟨start, has, near⟩, few, enough, fewer⟩

/-- **A pattern occurs in a text exactly if it leads from one of its gaps to a gap.** -/
theorem occursIn_iff {pattern : Pattern} {text : String} :
    pattern.occursIn text = true ↔
      ∃ start ≤ text.toList.length, ∃ stop, Leads text.toList pattern start stop := by
  have whole := List.length_replicate (n := text.toList.length + 1) (a := true)
  have everywhere (gap : Nat) : Has (List.replicate (text.toList.length + 1) true) gap ↔
      gap ≤ text.toList.length := by
    rw [Has, List.getElem?_replicate]
    split <;> simp <;> omega
  rw [occursIn, ← exists_has_iff]
  simp only [(follows_reach text.toList pattern).has _ whole, everywhere]
  constructor
  · rintro ⟨stop, start, inside, leads⟩
    exact ⟨start, inside, stop, leads⟩
  · rintro ⟨start, inside, stop, leads⟩
    exact ⟨stop, start, inside, leads⟩

end NodeStorage.Pattern
