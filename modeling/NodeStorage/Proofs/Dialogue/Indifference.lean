/-
**Dialogues that do not care how some of their questions are answered.**

Some questions are asked for what they bring about, and their answers do not matter: a dialogue goes
on in one way whatever they are answered. Then two conversations can differ in these answers only.
As they ask the same questions from the start and get the same answers to all others, neither ever
learns of a difference.

* `Disregards` — the dialogue goes on in one way after every slight question, and does so to its
  end; it is closed under `bind` and `attempt`.
* `AlikeBut` — in two conversations, what is asked after the same questions has the same answer,
  unless it is slight.
* `Disregards.same` — **conversations that are alike but for slight answers** ask the same questions
  and have the same result.
-/

import NodeStorage.Proofs.Dialogue.Conversation

namespace NodeStorage.Dialogue

variable {Question : Type} {Answer : Question → Type} {Result Other : Type}
  {slight : Question → Prop}

/-! ### Dialogues -/

/-- **The dialogue disregards the answers to slight questions.** -/
inductive Disregards (slight : Question → Prop) : Dialogue Question Answer Result → Prop
  | done (result : Result) : Disregards slight (.done result)
  | ask {q : Question} {next : Answer q → Dialogue Question Answer Result} :
      (slight q → ∀ answer other, next answer = next other) →
      (∀ answer, Disregards slight (next answer)) →
      Disregards slight (.ask q next)

namespace Disregards

/-- The answer to a question that is not slight may matter. -/
theorem heed {q : Question} {next : Answer q → Dialogue Question Answer Result}
    (matters : ¬ slight q) (later : ∀ answer, Disregards slight (next answer)) :
    Disregards slight (.ask q next) :=
  .ask (fun does => absurd does matters) later

/-- A question whose answer is dropped may be slight. -/
theorem tell {q : Question} {rest : Dialogue Question Answer Result}
    (later : Disregards slight rest) : Disregards slight (.ask q fun _ => rest) :=
  .ask (fun _ _ _ => rfl) fun _ => later

theorem bind {first : Dialogue Question Answer Result}
    {second : Result → Dialogue Question Answer Other} (early : Disregards slight first)
    (late : ∀ result, Disregards slight (second result)) :
    Disregards slight (first.bind second) := by
  induction early with
  | done result => exact late result
  | @ask q next one later ih =>
    refine .ask (fun isSlight answer other => ?_) ih
    rw [one isSlight answer other]

theorem attempt {Failure Value Next : Type}
    {first : Dialogue Question Answer (Except Failure Value)}
    {second : Value → Dialogue Question Answer (Except Failure Next)}
    (early : Disregards slight first) (late : ∀ value, Disregards slight (second value)) :
    Disregards slight (first.attempt second) := by
  refine early.bind fun outcome => ?_
  cases outcome with
  | error cause => exact .done _
  | ok value => exact late value

end Disregards

/-! ### Conversations -/

/-- **Alike but for slight questions**: what is asked after the same questions has the same answer
in both, unless it is slight. -/
def AlikeBut (slight : Question → Prop) (first second : List (Exchange Question Answer)) : Prop :=
  ∀ early earlyToo q answer answerToo late lateToo,
    first = early ++ ⟨q, answer⟩ :: late → second = earlyToo ++ ⟨q, answerToo⟩ :: lateToo →
    early.map Exchange.question = earlyToo.map Exchange.question →
    ¬ slight q → answer = answerToo

theorem alikeBut_nil : AlikeBut slight ([] : List (Exchange Question Answer)) [] := by
  intro early earlyToo q answer answerToo late lateToo split
  exact absurd split.symm (List.append_ne_nil_of_right_ne_nil early (List.cons_ne_nil _ _))

theorem alikeBut_cons_iff {q : Question} {answer answerToo : Answer q}
    {first second : List (Exchange Question Answer)} :
    AlikeBut slight (⟨q, answer⟩ :: first) (⟨q, answerToo⟩ :: second) ↔
      (¬ slight q → answer = answerToo) ∧ AlikeBut slight first second := by
  constructor
  · intro alike
    refine ⟨alike [] [] q answer answerToo first second rfl rfl rfl, ?_⟩
    rintro early earlyToo p found foundToo late lateToo rfl rfl same
    refine alike (⟨q, answer⟩ :: early) (⟨q, answerToo⟩ :: earlyToo) p found foundToo late lateToo
      rfl rfl ?_
    rw [List.map_cons, List.map_cons, same]
  · rintro ⟨here, later⟩ early earlyToo p found foundToo late lateToo split splitToo same
    cases early with
    | nil =>
      have none : earlyToo = [] := List.map_eq_nil_iff.mp same.symm
      rw [none] at splitToo
      cases split
      cases splitToo
      exact here
    | cons exchange early =>
      cases earlyToo with
      | nil => cases same
      | cons exchangeToo earlyToo =>
        cases split
        cases splitToo
        exact later early earlyToo p found foundToo late lateToo rfl rfl (List.cons.inj same).2

/-- **Conversations that are alike but for slight answers ask the same questions** and have the
same result. -/
theorem Disregards.same {dialogue : Dialogue Question Answer Result}
    {first second : List (Exchange Question Answer)} {result resultToo : Result}
    (disregards : Disregards slight dialogue) (conversation : Conversation dialogue first result)
    (conversationToo : Conversation dialogue second resultToo)
    (alike : AlikeBut slight first second) :
    first.map Exchange.question = second.map Exchange.question ∧ result = resultToo := by
  induction disregards generalizing first second with
  | done value =>
    obtain ⟨rfl, rfl⟩ := conversation_done_iff.mp conversation
    obtain ⟨rfl, rfl⟩ := conversation_done_iff.mp conversationToo
    exact ⟨rfl, rfl⟩
  | @ask q next one later ih =>
    obtain ⟨answer, rest, rfl, goesOn⟩ := conversation_ask_iff.mp conversation
    obtain ⟨answerToo, restToo, rfl, goesOnToo⟩ := conversation_ask_iff.mp conversationToo
    obtain ⟨here, further⟩ := alikeBut_cons_iff.mp alike
    have next : next answerToo = next answer := by
      by_cases isSlight : slight q
      · exact one isSlight answerToo answer
      · rw [here isSlight]
    rw [next] at goesOnToo
    obtain ⟨questions, results⟩ := ih answer goesOn goesOnToo further
    refine ⟨?_, results⟩
    rw [List.map_cons, List.map_cons, questions]

end NodeStorage.Dialogue
