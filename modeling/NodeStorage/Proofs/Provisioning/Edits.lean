/-
**Whatever is asked of a progress, it goes through the phases in order.**

A run keeps its progress by three kinds of edits: it moves on to a phase, it fails, and it changes
the checkpoint as it likes. Here the edits come in any order and with any phases and texts. What
may not be done is refused and changes nothing; so the phases that are entered follow each other as
in a whole run, up to a failure if there is one, and the details always speak of the phase that is
current or, after a failure, of the phase in which it happened.

* `EditStep` — what one edit does: it moves on, fails, is refused, or changes the checkpoint alone.
* `Standing` — the phases so far with the progress that belongs to them; `Standing.step` says that
  an edit keeps it.
* `keepsOrder` — **after any edits**, the phases, the details and what a further edit can do.
-/

import NodeStorage.Proofs.Provisioning.Phases

namespace NodeStorage.Provisioning

/-! ### Edits -/

/-- What may be asked of a progress. -/
inductive Edit where
  | advance (next : Phase) (message : String)
  | fail (message error : String)
  | checkpoint (change : Checkpoint → Checkpoint)

namespace Edit

/-- The edit is about the phase. -/
def isTransition : Edit → Bool
  | advance _ _ | fail _ _ => true
  | checkpoint _ => false

/-- The answer to an edit. -/
def answer (progress : Progress) : Edit → Outcome Progress
  | advance next message => progress.advance next message
  | fail message error => progress.fail message error
  | checkpoint change => .ok { progress with checkpoint := change progress.checkpoint }

/-- The phase that is entered, when a transition is accepted. -/
def enters? (progress : Progress) (edit : Edit) : Option Phase :=
  if edit.isTransition then (edit.answer progress).toOption.map Progress.phase else none

end Edit

namespace Progress

/-- The progress after an edit; a refused one leaves it. -/
def edited (progress : Progress) (edit : Edit) : Progress :=
  (edit.answer progress).toOption.getD progress

/-- The progress after some edits. -/
def editedBy (progress : Progress) (edits : List Edit) : Progress :=
  edits.foldl edited progress

/-- The phases that some edits enter, in order. -/
def entered (progress : Progress) : List Edit → List Phase
  | [] => []
  | edit :: edits => (edit.enters? progress).toList ++ (progress.edited edit).entered edits

end Progress

/-! ### One edit -/

/-- What an edit does to a progress, and the phase that it enters. -/
inductive EditStep (progress : Progress) : Edit → Option Phase → Progress → Prop
  | advanced {next : Phase} (message : String) (follows : progress.phase.mayMoveTo next = true)
      (goesOn : next ≠ .failed) :
      EditStep progress (.advance next message) (some next)
        ⟨next, .of next message none, progress.checkpoint⟩
  | failed (message error : String) (running : progress.phase.isFinal = false) :
      EditStep progress (.fail message error) (some .failed) (progress.broken message error)
  | refused {edit : Edit} {next : Phase} (transition : edit.isTransition = true)
      (answer : edit.answer progress = .error (Progress.refusal progress.phase next)) :
      EditStep progress edit none progress
  | noted (change : Checkpoint → Checkpoint) :
      EditStep progress (.checkpoint change) none
        { progress with checkpoint := change progress.checkpoint }

theorem Phase.mayMoveTo_failed (phase : Phase) : phase.mayMoveTo .failed = !phase.isFinal := by
  cases phase <;> rfl

theorem Phase.mayMoveTo_of_isFinal {phase next : Phase} (final : phase.isFinal = true) :
    phase.mayMoveTo next = false := by
  cases phase with
  | completed | failed => cases next <;> rfl
  | _ => cases final

/-- **An edit does one of four things.** -/
theorem step_edited (progress : Progress) (edit : Edit) :
    EditStep progress edit (edit.enters? progress) (progress.edited edit) := by
  cases edit with
  | advance next message =>
    by_cases follows : progress.phase.mayMoveTo next = true ∧ next ≠ .failed
    · have answer := Progress.advance_of_mayMoveTo message follows.1 follows.2
      rw [Edit.enters?, Progress.edited, Edit.answer, answer]
      exact .advanced message follows.1 follows.2
    · have answer : (Edit.advance next message).answer progress =
          .error (Progress.refusal progress.phase next) := by
        rw [Edit.answer, Progress.advance, if_neg (by simpa using follows)]
      rw [Edit.enters?, Progress.edited, answer]
      exact .refused rfl answer
  | fail message error =>
    cases final : progress.phase.isFinal with
    | false =>
      have answer := Progress.fail_of_not_final message error final
      rw [Edit.enters?, Progress.edited, Edit.answer, answer]
      exact .failed message error final
    | true =>
      have answer : (Edit.fail message error).answer progress =
          .error (Progress.refusal progress.phase .failed) := by
        rw [Edit.answer, Progress.fail, Phase.mayMoveTo_failed, final]
        rfl
      rw [Edit.enters?, Progress.edited, answer]
      exact .refused rfl answer
  | checkpoint change => exact .noted change

section EditStep

variable {progress after : Progress} {edit : Edit} {enters : Option Phase}

/-- Failure is entered by failing only. -/
theorem EditStep.fails (step : EditStep progress edit enters after)
    (goesOn : progress.phase ≠ .failed) (failed : after.phase = .failed) :
    ∃ message error, edit = .fail message error := by
  cases step with
  | advanced _ _ onward => exact absurd failed onward
  | failed message error => exact ⟨message, error, rfl⟩
  | refused | noted => exact absurd failed goesOn

/-- A transition leaves the checkpoint alone. -/
theorem EditStep.checkpoint (step : EditStep progress edit enters after)
    (transition : edit.isTransition = true) : after.checkpoint = progress.checkpoint := by
  cases step with
  | advanced | failed | refused => rfl
  | noted => cases transition

/-- **A refused edit changes nothing**, and the error tells which phase may not follow. -/
theorem refused_of_answer {error : Error} (answer : edit.answer progress = .error error) :
    progress.edited edit = progress ∧ ∃ next, error = Progress.refusal progress.phase next := by
  have step := step_edited progress edit
  refine ⟨by rw [Progress.edited, answer]; rfl, ?_⟩
  generalize edit.enters? progress = enters at step
  generalize progress.edited edit = after at step
  cases step with
  | advanced message follows onward =>
    rw [Edit.answer, Progress.advance_of_mayMoveTo message follows onward] at answer
    cases answer
  | failed message text running =>
    rw [Edit.answer, Progress.fail_of_not_final message text running] at answer
    cases answer
  | @refused _ next _ same => exact ⟨next, Except.error.inj (answer.symm.trans same)⟩
  | noted => cases answer

end EditStep

/-! ### The phases so far -/

/-- The phases of a whole run up to one of them. -/
def Phase.upTo (phase : Phase) : List Phase :=
  Phase.whole.takeWhile (· != phase) ++ [phase]

theorem Phase.upTo_prefix {phase : Phase} (goesOn : phase ≠ .failed) :
    phase.upTo <+: Phase.whole := by
  cases phase with
  | failed => exact absurd rfl goesOn
  | _ => exact ⟨_, rfl⟩

theorem Phase.upTo_append {phase next : Phase} (follows : phase.mayMoveTo next = true)
    (goesOn : next ≠ .failed) : phase.upTo ++ [next] = next.upTo := by
  cases next with
  | failed => exact absurd rfl goesOn
  | _ => cases phase <;> first | rfl | cases follows

/-- The phases so far, and a progress that belongs to them. -/
inductive Standing : List Phase → Progress → Prop
  | running {phase : Phase} (message : String) (checkpoint : Checkpoint)
      (goesOn : phase ≠ .failed) :
      Standing phase.upTo ⟨phase, .of phase message none, checkpoint⟩
  | failed {left : Phase} (message error : String) (checkpoint : Checkpoint)
      (running : left.isFinal = false) :
      Standing (left.upTo ++ [.failed]) ⟨.failed, .of left message (some error), checkpoint⟩

namespace Standing

variable {phases : List Phase} {progress : Progress}

/-- **An edit keeps the standing**, with one more phase if it enters one. -/
theorem step (standing : Standing phases progress) {edit : Edit} {enters : Option Phase}
    {after : Progress} (step : EditStep progress edit enters after) :
    Standing (phases ++ enters.toList) after := by
  cases standing with
  | running message checkpoint goesOn =>
    cases step with
    | advanced next follows onward =>
      rw [Option.toList_some, Phase.upTo_append follows onward]
      exact .running next checkpoint onward
    | failed saying error running => exact .failed saying error checkpoint running
    | refused =>
      rw [Option.toList_none, List.append_nil]
      exact .running message checkpoint goesOn
    | noted change =>
      rw [Option.toList_none, List.append_nil]
      exact .running message (change checkpoint) goesOn
  | @failed left message error checkpoint running =>
    cases step with
    | @advanced next _ follows => cases next <;> cases follows
    | failed _ _ running => cases running
    | refused =>
      rw [Option.toList_none, List.append_nil]
      exact .failed message error checkpoint running
    | noted change =>
      rw [Option.toList_none, List.append_nil]
      exact .failed message error (change checkpoint) running

/-- Edits keep the standing. -/
theorem editedBy (standing : Standing phases progress) (edits : List Edit) :
    Standing (phases ++ progress.entered edits) (progress.editedBy edits) := by
  induction edits generalizing phases progress with
  | nil =>
    rw [Progress.entered, List.append_nil]
    exact standing
  | cons edit edits ih =>
    have later := ih (standing.step (step_edited progress edit))
    rw [List.append_assoc] at later
    exact later

end Standing

theorem standing_start (message : String) (edits : List Edit) :
    Standing (.starting :: (Progress.start message).entered edits)
      ((Progress.start message).editedBy edits) := by
  have start : Standing Phase.starting.upTo (.start message) := .running message {} (by decide)
  exact start.editedBy edits

/-! ### The end of a run -/

/-- In a final phase an edit changes the checkpoint at most. -/
theorem EditStep.of_final {progress after : Progress} {edit : Edit} {enters : Option Phase}
    (step : EditStep progress edit enters after) (final : progress.phase.isFinal = true) :
    after.phase = progress.phase ∧ after.details = progress.details := by
  cases step with
  | advanced message follows =>
    rw [Phase.mayMoveTo_of_isFinal final] at follows
    cases follows
  | failed _ _ running =>
    rw [final] at running
    cases running
  | refused | noted => exact ⟨rfl, rfl⟩

/-- **A final phase is final**, and so is what is said about it. -/
theorem editedBy_of_final {progress : Progress} (final : progress.phase.isFinal = true)
    (edits : List Edit) :
    (progress.editedBy edits).phase = progress.phase ∧
      (progress.editedBy edits).details = progress.details := by
  induction edits generalizing progress with
  | nil => exact ⟨rfl, rfl⟩
  | cons edit edits ih =>
    obtain ⟨phase, details⟩ := (step_edited progress edit).of_final final
    obtain ⟨last, said⟩ := ih (phase ▸ final)
    exact ⟨last.trans phase, said.trans details⟩

/-! ### After any edits -/

theorem Phase.isFinal_of_mem_upTo {left : Phase} (running : left.isFinal = false) :
    ∀ phase ∈ left.upTo, phase.isFinal = false := by
  cases left with
  | completed | failed => cases running
  | _ => decide

theorem Phase.length_upTo_le {left : Phase} (running : left.isFinal = false) :
    left.upTo.length ≤ 4 := by
  cases left with
  | completed | failed => cases running
  | _ => decide

namespace Standing

variable {phases : List Phase} {progress : Progress}

theorem order (standing : Standing phases progress) :
    phases <+: Phase.whole ∨
      ∃ begun, begun <+: Phase.whole ∧ (∀ phase ∈ begun, phase.isFinal = false) ∧
        phases = begun ++ [.failed] := by
  cases standing with
  | running _ _ goesOn => exact Or.inl (Phase.upTo_prefix goesOn)
  | @failed left _ _ _ running =>
    have goesOn : left ≠ .failed := by
      rintro rfl
      cases running
    exact Or.inr ⟨left.upTo, Phase.upTo_prefix goesOn, Phase.isFinal_of_mem_upTo running, rfl⟩

theorem current (standing : Standing phases progress) :
    phases.getLast? = some progress.phase := by
  cases standing with
  | running | failed => exact List.getLast?_concat

theorem length_le (standing : Standing phases progress) : phases.length ≤ 5 := by
  cases standing with
  | running _ _ goesOn => exact (Phase.upTo_prefix goesOn).length_le
  | failed _ _ _ running =>
    rw [List.length_append, List.length_singleton]
    exact Nat.succ_le_succ (Phase.length_upTo_le running)

/-- Before a failure the details speak of the current phase. -/
theorem details_of_running (standing : Standing phases progress)
    (goesOn : progress.phase ≠ .failed) :
    progress.details.phaseName = progress.phase.name ∧
      progress.details.progress = some progress.phase.progress ∧ progress.details.error = none := by
  cases standing with
  | running => exact ⟨rfl, rfl, rfl⟩
  | failed => exact absurd rfl goesOn

/-- After a failure the details speak of the phase that it left. -/
theorem details_of_failed (standing : Standing phases progress)
    (failed : progress.phase = .failed) :
    ∃ begun left, phases = begun ++ [left, .failed] ∧ left.isFinal = false ∧
      progress.details.phaseName = left.name ∧
      progress.details.progress = some left.progress ∧
      progress.details.error.isSome = true := by
  cases standing with
  | running _ _ goesOn => exact absurd failed goesOn
  | @failed left _ _ _ running =>
    exact ⟨_, left, List.append_assoc _ [left] [.failed], running, rfl, rfl, rfl⟩

end Standing

/-- **What the edits of a run that starts come to**, and what a further one can do. -/
structure KeepsOrder (entered : List Phase) (progress : Progress) : Prop where
  /-- The phases are the first of a whole run, or the first of it before completion and then a
  failure. -/
  order : .starting :: entered <+: Phase.whole ∨
    ∃ begun, begun <+: Phase.whole ∧ (∀ phase ∈ begun, phase.isFinal = false) ∧
      .starting :: entered = begun ++ [.failed]
  /-- The last phase is the current one. -/
  current : (.starting :: entered).getLast? = some progress.phase
  /-- At most four transitions are accepted. -/
  few : entered.length ≤ 4
  /-- Before a failure the details speak of the current phase. -/
  running : progress.phase ≠ .failed →
    progress.details.phaseName = progress.phase.name ∧
      progress.details.progress = some progress.phase.progress ∧ progress.details.error = none
  /-- After a failure they speak of the phase that it left. -/
  failed : progress.phase = .failed → ∃ begun left,
    .starting :: entered = begun ++ [left, .failed] ∧ left.isFinal = false ∧
    progress.details.phaseName = left.name ∧ progress.details.progress = some left.progress ∧
    progress.details.error.isSome = true
  /-- A refused edit changes nothing; the error tells which phase may not follow. -/
  refused : ∀ edit error, edit.answer progress = .error error →
    progress.edited edit = progress ∧ ∃ next, error = Progress.refusal progress.phase next
  /-- A final phase and its details stay. -/
  final : progress.phase.isFinal = true → ∀ later,
    (progress.editedBy later).phase = progress.phase ∧
      (progress.editedBy later).details = progress.details
  /-- Failure is entered by failing only. -/
  failing : ∀ edit, progress.phase ≠ .failed → (progress.edited edit).phase = .failed →
    ∃ message error, edit = .fail message error
  /-- No transition changes the checkpoint. -/
  checkpoint : ∀ edit, edit.isTransition = true →
    (progress.edited edit).checkpoint = progress.checkpoint

/-- **A run keeps its order whatever is asked of it.** -/
theorem keepsOrder (message : String) (edits : List Edit) :
    KeepsOrder ((Progress.start message).entered edits)
      ((Progress.start message).editedBy edits) := by
  have standing := standing_start message edits
  generalize (Progress.start message).editedBy edits = progress at standing ⊢
  refine ⟨standing.order, standing.current, Nat.le_of_succ_le_succ standing.length_le,
    standing.details_of_running, standing.details_of_failed, fun edit error answer => ?_,
    editedBy_of_final, fun edit goesOn failed => ?_, fun edit transition => ?_⟩
  · exact refused_of_answer answer
  · exact (step_edited progress edit).fails goesOn failed
  · exact (step_edited progress edit).checkpoint transition

example :
    (Progress.start "go").entered
        [.advance .creatingDisks "disks", .advance .completed "skipped",
          .advance .failed "advanced", .checkpoint fun made => { made with localDisks := ["sdb"] },
          .advance .creatingFilesystem "filesystem", .fail "stopped" "denied", .fail "again" ""] =
      [.creatingDisks, .creatingFilesystem, .failed] := by
  rfl

end NodeStorage.Provisioning
