/-
**Steps of a dialogue.**

A dialogue that shares its world with others goes on by one exchange at a time, and in between the
others go on. `Step` is one exchange, and what is left of the dialogue then; `Steps` is several,
with the last at the end of the list.
-/

import NodeStorage.Dialogue

namespace NodeStorage.Dialogue

variable {Question : Type} {Answer : Question → Type} {Result : Type}

/-- A dialogue goes on after an exchange. -/
inductive Step : Dialogue Question Answer Result → Exchange Question Answer →
    Dialogue Question Answer Result → Prop
  | ask {q : Question} {next : Answer q → Dialogue Question Answer Result} (answer : Answer q) :
      Step (.ask q next) ⟨q, answer⟩ (next answer)

theorem step_ask_iff {q : Question} {next : Answer q → Dialogue Question Answer Result}
    {exchange : Exchange Question Answer} {rest : Dialogue Question Answer Result} :
    Step (.ask q next) exchange rest ↔
      ∃ answer, exchange = ⟨q, answer⟩ ∧ next answer = rest := by
  constructor
  · rintro ⟨answer⟩
    exact ⟨answer, rfl, rfl⟩
  · rintro ⟨answer, rfl, rfl⟩
    exact .ask answer

theorem not_step_done {result : Result} {exchange : Exchange Question Answer}
    {rest : Dialogue Question Answer Result} : ¬ Step (.done result) exchange rest := by
  rintro ⟨⟩

/-- A dialogue goes on after several exchanges. -/
inductive Steps : Dialogue Question Answer Result → List (Exchange Question Answer) →
    Dialogue Question Answer Result → Prop
  | none (dialogue : Dialogue Question Answer Result) : Steps dialogue [] dialogue
  | more {dialogue middle last : Dialogue Question Answer Result}
      {exchanges : List (Exchange Question Answer)} {exchange : Exchange Question Answer} :
      Steps dialogue exchanges middle → Step middle exchange last →
      Steps dialogue (exchanges ++ [exchange]) last

end NodeStorage.Dialogue
