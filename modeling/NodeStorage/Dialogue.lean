/-
**Dialogues: programs that act on the world by asking questions.**

A program that talks to a cluster, a disk or a clock is written as a tree: it is done and has its
result, or it asks a question and goes on in a way that depends on the answer. The tree holds no
world. A world is a way to answer:

* `Dialogue.run` carries a state through the answers, so a cluster kept as a set of objects, a
  list of prepared answers and a server that fails at chosen calls are all the same kind of thing;
* `Dialogue.trace` lists the questions with the answers they got, in order;
* `Dialogue.translate` replaces every question by a dialogue of another kind, as a client does when
  it turns a question about objects into requests on the wire.

Every tree is finite along every branch, so each of these is a plain recursion on the tree.
-/

namespace NodeStorage

/-- A program that has its result, or asks a question and goes on with the answer. -/
inductive Dialogue (Question : Type) (Answer : Question → Type) (Result : Type) : Type where
  | done (result : Result)
  | ask (question : Question) (next : Answer question → Dialogue Question Answer Result)

namespace Dialogue

variable {Question : Type} {Answer : Question → Type} {Result Other State : Type}

/-- Asks one question and returns its answer. -/
def question (q : Question) : Dialogue Question Answer (Answer q) :=
  .ask q .done

/-- Runs the first dialogue, then the one its result selects. -/
def bind (first : Dialogue Question Answer Result)
    (second : Result → Dialogue Question Answer Other) : Dialogue Question Answer Other :=
  match first with
  | .done result => second result
  | .ask q next => .ask q fun answer => (next answer).bind second

instance : Monad (Dialogue Question Answer) where
  pure := .done
  bind := bind

/-- Runs a dialogue in a world: `respond` answers each question and moves the state. -/
def run (respond : (q : Question) → State → Answer q × State) :
    Dialogue Question Answer Result → State → Result × State
  | .done result, state => (result, state)
  | .ask q next, state =>
    let (answer, after) := respond q state
    run respond (next answer) after

/-- Runs the first dialogue and, if it succeeds, the one its value selects. -/
def attempt {Failure Value Next : Type}
    (first : Dialogue Question Answer (Except Failure Value))
    (second : Value → Dialogue Question Answer (Except Failure Next)) :
    Dialogue Question Answer (Except Failure Next) :=
  first.bind fun outcome =>
    match outcome with
    | .ok value => second value
    | .error cause => .done (.error cause)

/-- One question with the answer it got. -/
structure Exchange (Question : Type) (Answer : Question → Type) where
  question : Question
  answer : Answer question

/-- The questions asked in a world, with their answers, in order. -/
def trace (respond : (q : Question) → State → Answer q × State) :
    Dialogue Question Answer Result → State → List (Exchange Question Answer)
  | .done _, _ => []
  | .ask q next, state =>
    let (answer, after) := respond q state
    ⟨q, answer⟩ :: trace respond (next answer) after

/-- Replaces every question by a dialogue of another kind that finds its answer. -/
def translate {Wire : Type} {Reply : Wire → Type}
    (replace : (q : Question) → Dialogue Wire Reply (Answer q)) :
    Dialogue Question Answer Result → Dialogue Wire Reply Result
  | .done result => .done result
  | .ask q next => (replace q).bind fun answer => translate replace (next answer)

@[simp] theorem bind_ask (q : Question) (next : Answer q → Dialogue Question Answer Result)
    (second : Result → Dialogue Question Answer Other) :
    (Dialogue.ask q next).bind second = .ask q fun answer => (next answer).bind second := rfl

@[simp] theorem pure_eq_done (result : Result) :
    (pure result : Dialogue Question Answer Result) = .done result := rfl

/-- Running two dialogues one after the other runs the second where the first ended. -/
theorem run_bind (respond : (q : Question) → State → Answer q × State)
    (first : Dialogue Question Answer Result) (second : Result → Dialogue Question Answer Other)
    (state : State) :
    run respond (first.bind second) state =
      run respond (second (run respond first state).1) (run respond first state).2 := by
  induction first generalizing state with
  | done result => rfl
  | ask q next ih => simp [run, ih]

end Dialogue

end NodeStorage
