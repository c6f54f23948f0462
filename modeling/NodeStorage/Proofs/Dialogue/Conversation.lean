/-
**Conversations: all that a dialogue can say, whatever it is answered.**

A dialogue leaves every answer open. A conversation is one way to fill the answers in: the questions
that are asked then, each with its answer, and the result at the end. Nothing is assumed of whoever
answers, so a statement about every conversation holds in every world.

* `conversation_bind_iff`, `conversation_attempt_iff` — a conversation of two dialogues, one after
  the other, is a conversation of the first followed by one of the second.
* `conversation_attempt_of` — the same, when it is known what the first of them says.
* `conversation_trace` — what happens in a world is a conversation.
* `leads_trace` — and the world moves from one state to the next as its answers say: `Leads` lists
  the exchanges between two states of a world without the dialogue that asked for them, and
  `Leads.keeps` says that what each of them keeps is kept by all of them, and `Passes` holds of the
  states on the way.
* `EachAfter` — every element of a list is as it must be after those before it.
* `Abides` — whatever it is answered, a dialogue asks its questions only where they may be asked
  after what was said before; `Abides.of_conversation` says so of its conversations.
-/

import NodeStorage.Dialogue

namespace NodeStorage.Dialogue

variable {Question : Type} {Answer : Question → Type} {Result Other State : Type}

/-! ### Conversations -/

/-- The dialogue can have these exchanges and then this result. -/
inductive Conversation :
    Dialogue Question Answer Result → List (Exchange Question Answer) → Result → Prop
  | done (result : Result) : Conversation (.done result) [] result
  | ask {q : Question} {next : Answer q → Dialogue Question Answer Result} (answer : Answer q)
      {exchanges : List (Exchange Question Answer)} {result : Result} :
      Conversation (next answer) exchanges result →
      Conversation (.ask q next) (⟨q, answer⟩ :: exchanges) result

@[simp] theorem conversation_done_iff {value : Result}
    {exchanges : List (Exchange Question Answer)} {result : Result} :
    Conversation (.done value) exchanges result ↔ exchanges = [] ∧ result = value := by
  constructor
  · intro conversation
    cases conversation
    exact ⟨rfl, rfl⟩
  · rintro ⟨rfl, rfl⟩
    exact .done result

@[simp] theorem conversation_ask_iff {q : Question}
    {next : Answer q → Dialogue Question Answer Result}
    {exchanges : List (Exchange Question Answer)} {result : Result} :
    Conversation (.ask q next) exchanges result ↔
      ∃ answer rest, exchanges = ⟨q, answer⟩ :: rest ∧ Conversation (next answer) rest result := by
  constructor
  · intro conversation
    cases conversation with
    | ask answer conversation => exact ⟨answer, _, rfl, conversation⟩
  · rintro ⟨answer, rest, rfl, conversation⟩
    exact .ask answer conversation

/-- **A conversation of two dialogues is one of each, one after the other.** -/
theorem conversation_bind_iff {first : Dialogue Question Answer Result}
    {second : Result → Dialogue Question Answer Other}
    {exchanges : List (Exchange Question Answer)} {result : Other} :
    Conversation (first.bind second) exchanges result ↔
      ∃ early middle late, exchanges = early ++ late ∧ Conversation first early middle ∧
        Conversation (second middle) late result := by
  induction first generalizing exchanges with
  | done value =>
    constructor
    · exact fun conversation => ⟨[], value, exchanges, rfl, .done value, conversation⟩
    · rintro ⟨early, middle, late, rfl, first, last⟩
      obtain ⟨rfl, rfl⟩ := conversation_done_iff.mp first
      exact last
  | ask q next ih =>
    rw [bind_ask, conversation_ask_iff]
    constructor
    · rintro ⟨answer, rest, rfl, conversation⟩
      obtain ⟨early, middle, late, rfl, first, last⟩ := (ih answer).mp conversation
      exact ⟨⟨q, answer⟩ :: early, middle, late, rfl, .ask answer first, last⟩
    · rintro ⟨early, middle, late, rfl, asked, last⟩
      obtain ⟨answer, rest, rfl, first⟩ := conversation_ask_iff.mp asked
      exact ⟨answer, rest ++ late, rfl, (ih answer).mpr ⟨rest, middle, late, rfl, first, last⟩⟩

/-- What is made of a result at the end is not said. -/
theorem conversation_bind_done_iff {first : Dialogue Question Answer Result}
    {f : Result → Other} {exchanges : List (Exchange Question Answer)} {result : Other} :
    Conversation (first.bind fun given => .done (f given)) exchanges result ↔
      ∃ given, Conversation first exchanges given ∧ result = f given := by
  rw [conversation_bind_iff]
  constructor
  · rintro ⟨early, given, late, rfl, first, last⟩
    obtain ⟨rfl, rfl⟩ := conversation_done_iff.mp last
    rw [List.append_nil]
    exact ⟨given, first, rfl⟩
  · rintro ⟨given, first, rfl⟩
    exact ⟨exchanges, given, [], (List.append_nil _).symm, first, .done _⟩

/-- **An attempt ends with the first error, or goes on with the first value.** -/
theorem conversation_attempt_iff {Failure Value Next : Type}
    {first : Dialogue Question Answer (Except Failure Value)}
    {second : Value → Dialogue Question Answer (Except Failure Next)}
    {exchanges : List (Exchange Question Answer)} {result : Except Failure Next} :
    Conversation (first.attempt second) exchanges result ↔
      (∃ cause, Conversation first exchanges (.error cause) ∧ result = .error cause) ∨
        ∃ early value late, exchanges = early ++ late ∧ Conversation first early (.ok value) ∧
          Conversation (second value) late result := by
  rw [attempt, conversation_bind_iff]
  constructor
  · rintro ⟨early, outcome, late, rfl, first, last⟩
    cases outcome with
    | ok value => exact Or.inr ⟨early, value, late, rfl, first, last⟩
    | error cause =>
      obtain ⟨rfl, rfl⟩ := conversation_done_iff.mp last
      rw [List.append_nil]
      exact Or.inl ⟨cause, first, rfl⟩
  · rintro (⟨cause, first, rfl⟩ | ⟨early, value, late, rfl, first, last⟩)
    · exact ⟨exchanges, .error cause, [], by rw [List.append_nil], first, .done _⟩
    · exact ⟨early, .ok value, late, rfl, first, last⟩

/-- **An attempt at a step that has one value to give** fails as the step does, or goes on with this
value after what the step says when it works. -/
theorem conversation_attempt_of {Failure Value Next : Type}
    {first : Dialogue Question Answer (Except Failure Value)}
    {second : Value → Dialogue Question Answer (Except Failure Next)}
    {exchanges : List (Exchange Question Answer)} {result : Except Failure Next} {value : Value}
    {Works : List (Exchange Question Answer) → Prop}
    {Fails : List (Exchange Question Answer) → Failure → Prop}
    (step : ∀ {early outcome}, Conversation first early outcome →
      (Works early ∧ outcome = .ok value) ∨ ∃ cause, Fails early cause ∧ outcome = .error cause)
    (conversation : Conversation (first.attempt second) exchanges result) :
    (∃ early late, exchanges = early ++ late ∧ Works early ∧
        Conversation (second value) late result) ∨
      ∃ cause, Fails exchanges cause ∧ result = .error cause := by
  rcases conversation_attempt_iff.mp conversation with
    ⟨cause, first, rfl⟩ | ⟨early, given, late, rfl, first, last⟩
  · rcases step first with ⟨-, impossible⟩ | ⟨found, fails, same⟩
    · cases impossible
    · cases same
      exact Or.inr ⟨cause, fails, rfl⟩
  · rcases step first with ⟨works, same⟩ | ⟨_, _, impossible⟩
    · cases same
      exact Or.inl ⟨early, late, rfl, works, last⟩
    · cases impossible

/-! ### Worlds -/

/-- **What happens in a world is a conversation.** -/
theorem conversation_trace (respond : (q : Question) → State → Answer q × State)
    (dialogue : Dialogue Question Answer Result) (state : State) :
    Conversation dialogue (trace respond dialogue state) (run respond dialogue state).1 := by
  induction dialogue generalizing state with
  | done value => exact .done value
  | ask q next ih => exact .ask _ (ih _ _)

/-- The world answers these exchanges on its way from one state to another. -/
inductive Leads (respond : (q : Question) → State → Answer q × State) :
    State → List (Exchange Question Answer) → State → Prop
  | stay (state : State) : Leads respond state [] state
  | step {state last : State} {exchanges : List (Exchange Question Answer)} (q : Question) :
      Leads respond (respond q state).2 exchanges last →
      Leads respond state (⟨q, (respond q state).1⟩ :: exchanges) last

theorem leads_nil_iff {respond : (q : Question) → State → Answer q × State} {state last : State} :
    Leads respond state [] last ↔ last = state := by
  constructor
  · intro leads
    cases leads
    rfl
  · rintro rfl
    exact .stay last

theorem leads_cons_iff {respond : (q : Question) → State → Answer q × State}
    {state last : State} {q : Question} {answer : Answer q}
    {exchanges : List (Exchange Question Answer)} :
    Leads respond state (⟨q, answer⟩ :: exchanges) last ↔
      answer = (respond q state).1 ∧ Leads respond (respond q state).2 exchanges last := by
  constructor
  · intro leads
    cases leads with
    | step q leads => exact ⟨rfl, leads⟩
  · rintro ⟨rfl, leads⟩
    exact .step q leads

theorem leads_append_iff {respond : (q : Question) → State → Answer q × State}
    {state last : State} {early late : List (Exchange Question Answer)} :
    Leads respond state (early ++ late) last ↔
      ∃ middle, Leads respond state early middle ∧ Leads respond middle late last := by
  induction early generalizing state with
  | nil => simp [leads_nil_iff]
  | cons exchange early ih =>
    obtain ⟨q, answer⟩ := exchange
    rw [List.cons_append, leads_cons_iff, ih]
    simp only [leads_cons_iff, and_assoc, exists_and_left]

/-- **A run leads the world along its trace to its last state.** -/
theorem leads_trace (respond : (q : Question) → State → Answer q × State)
    (dialogue : Dialogue Question Answer Result) (state : State) :
    Leads respond state (trace respond dialogue state) (run respond dialogue state).2 := by
  induction dialogue generalizing state with
  | done value => exact .stay state
  | ask q next ih => exact .step q (ih _ _)

/-- The world is in a state on the way of a run. -/
def Passes (respond : (q : Question) → State → Answer q × State)
    (dialogue : Dialogue Question Answer Result) (state middle : State) : Prop :=
  ∃ early late, trace respond dialogue state = early ++ late ∧ Leads respond state early middle

/-- **What every question of a conversation keeps is kept by all of it.** -/
theorem Leads.keeps {P : State → Prop} {respond : (q : Question) → State → Answer q × State}
    {state last : State} {exchanges : List (Exchange Question Answer)}
    (leads : Leads respond state exchanges last) (before : P state)
    (each : ∀ exchange ∈ exchanges, ∀ state, P state → P (respond exchange.question state).2) :
    P last := by
  induction leads with
  | stay state => exact before
  | step q leads ih =>
    obtain ⟨first, later⟩ := List.forall_mem_cons.mp each
    exact ih (first _ before) later

theorem run_attempt_of_ok {Failure Value Next : Type}
    {respond : (q : Question) → State → Answer q × State}
    {first : Dialogue Question Answer (Except Failure Value)} {state : State} {value : Value}
    (worked : (run respond first state).1 = .ok value)
    (second : Value → Dialogue Question Answer (Except Failure Next)) :
    run respond (first.attempt second) state =
      run respond (second value) (run respond first state).2 := by
  rw [attempt, run_bind, worked]

theorem run_attempt_of_error {Failure Value Next : Type}
    {respond : (q : Question) → State → Answer q × State}
    {first : Dialogue Question Answer (Except Failure Value)} {state : State} {cause : Failure}
    (failed : (run respond first state).1 = .error cause)
    (second : Value → Dialogue Question Answer (Except Failure Next)) :
    run respond (first.attempt second) state = (.error cause, (run respond first state).2) := by
  rw [attempt, run_bind, failed]
  rfl

/-! ### What comes before -/

/-- Every element of the list is as it must be after the history and the elements before it. -/
def EachAfter {α : Type} (P : List α → α → Prop) : List α → List α → Prop
  | _, [] => True
  | history, element :: rest => P history element ∧ EachAfter P (history ++ [element]) rest

theorem eachAfter_append {α : Type} {P : List α → α → Prop} {history first second : List α} :
    EachAfter P history (first ++ second) ↔
      EachAfter P history first ∧ EachAfter P (history ++ first) second := by
  induction first generalizing history with
  | nil => simp [EachAfter]
  | cons element first ih =>
    rw [List.cons_append, EachAfter, EachAfter, ih, and_assoc, List.append_assoc]
    rfl

/-- **Each element is as it must be after what precedes it.** -/
theorem EachAfter.at {α : Type} {P : List α → α → Prop} {elements earlier later : List α}
    {element : α} (each : EachAfter P [] elements)
    (split : elements = earlier ++ element :: later) : P earlier element := by
  rw [split, eachAfter_append] at each
  exact each.2.1

/-! ### What may be asked -/

/-- **The dialogue abides by a rule**: whatever it is answered, it asks each question only where the
rule allows it after the history and the exchanges before it. -/
inductive Abides (rule : List (Exchange Question Answer) → Question → Prop) :
    List (Exchange Question Answer) → Dialogue Question Answer Result → Prop
  | done (history : List (Exchange Question Answer)) (result : Result) :
      Abides rule history (.done result)
  | ask {history : List (Exchange Question Answer)} {q : Question}
      {next : Answer q → Dialogue Question Answer Result} :
      rule history q → (∀ answer, Abides rule (history ++ [⟨q, answer⟩]) (next answer)) →
      Abides rule history (.ask q next)

section Rules

variable {rule : List (Exchange Question Answer) → Question → Prop}
  {history : List (Exchange Question Answer)}

theorem Abides.bind {first : Dialogue Question Answer Result}
    {second : Result → Dialogue Question Answer Other} (early : Abides rule history first)
    (late : ∀ exchanges result, Conversation first exchanges result →
      Abides rule (history ++ exchanges) (second result)) :
    Abides rule history (first.bind second) := by
  induction early with
  | done history result =>
    have next := late [] result (.done result)
    rw [List.append_nil] at next
    exact next
  | ask may _ ih =>
    refine .ask may fun answer => ih answer fun exchanges result conversation => ?_
    rw [List.append_assoc]
    exact late _ _ (.ask answer conversation)

theorem Abides.attempt {Failure Value Next : Type}
    {first : Dialogue Question Answer (Except Failure Value)}
    {second : Value → Dialogue Question Answer (Except Failure Next)}
    (early : Abides rule history first)
    (late : ∀ exchanges value, Conversation first exchanges (.ok value) →
      Abides rule (history ++ exchanges) (second value)) :
    Abides rule history (first.attempt second) := by
  refine early.bind fun exchanges outcome conversation => ?_
  cases outcome with
  | error cause => exact .done _ _
  | ok value => exact late exchanges value conversation

/-- **In a conversation every question stands where it may be asked.** -/
theorem Abides.of_conversation {dialogue : Dialogue Question Answer Result}
    {exchanges : List (Exchange Question Answer)} {result : Result}
    (abides : Abides rule history dialogue)
    (conversation : Conversation dialogue exchanges result) :
    EachAfter (fun earlier exchange => rule earlier exchange.question) history exchanges := by
  induction conversation generalizing history with
  | done result => exact trivial
  | ask answer _ ih =>
    cases abides with
    | ask may later => exact ⟨may, ih (later answer)⟩

end Rules

end NodeStorage.Dialogue
