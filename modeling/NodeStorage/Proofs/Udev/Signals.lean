/-
**No change of a block device is lost, made up or told twice.**

A watch, its clock and the receiver of its signals act in any order. `Run` lists what happened, each
time with the watch that it happened to; nothing is assumed about the order.

* `Since` — something happened, and something else has not happened after it.
* `steps` — all that one step can do; from it what a step does to a note (`pending_after`), to what
  was read (`kept_step`), to the number of signals (`puts_step`), and when it is the last
  (`ends_iff`).
* `Run.pending_iff`, `Run.kept`, `Run.puts_le` — the same for whole runs, by induction.
* `faithful_of_happenings` — all of this together (`Faithful`), for every order of happenings.
* `Monitor.faithful` — a monitor goes through such a run, whatever is delivered to it.
-/

import NodeStorage.Udev.Watch

namespace NodeStorage.Udev

/-! ### What happened -/

/-- Something that happened to a watch. -/
structure Occurrence where
  watch : Watch
  happening : Happening

namespace Occurrence

variable (filter : Filter) (occurrence : Occurrence)

/-- The watch afterwards. -/
def after : Watch :=
  occurrence.watch.step filter occurrence.happening

/-- The watch reads a line that counts. -/
def Reads : Prop :=
  occurrence.watch.result = none ∧
    ∃ text, occurrence.happening = .arrival (.line text) ∧ filter.accepts text = true

/-- The receiver takes a signal. -/
def Takes : Prop :=
  occurrence.happening = .taken ∧ occurrence.watch.waiting = true

/-- An open note is cleared. -/
def Clears : Prop :=
  occurrence.watch.pending = true ∧ (occurrence.after filter).pending = false

/-- A signal is put into the channel. -/
def Puts : Prop :=
  occurrence.watch.waiting = false ∧ (occurrence.after filter).waiting = true

/-- The watch ends. -/
def Ends (result : Outcome Unit) : Prop :=
  occurrence.watch.result = none ∧ (occurrence.after filter).result = some result

instance : Decidable (occurrence.Puts filter) :=
  inferInstanceAs (Decidable (_ ∧ _))

end Occurrence

/-- What happened, in order, and the watch that this leads to. -/
inductive Run (filter : Filter) : List Occurrence → Watch → Prop
  | start : Run filter [] Watch.start
  | step {past : List Occurrence} {watch : Watch} (happening : Happening) :
      Run filter past watch →
      Run filter (past ++ [⟨watch, happening⟩]) (watch.step filter happening)

/-- Something happened, and nothing else of a kind after it. -/
def Since (Begins Breaks : Occurrence → Prop) (past : List Occurrence) : Prop :=
  ∃ earlier occurrence later, past = earlier ++ occurrence :: later ∧ Begins occurrence ∧
    ∀ other ∈ later, ¬ Breaks other

/-- What happens to a watch, each time with the watch that it happens to. -/
def occurrences (filter : Filter) : Watch → List Happening → List Occurrence
  | _, [] => []
  | watch, happening :: later =>
    ⟨watch, happening⟩ :: occurrences filter (watch.step filter happening) later

theorem not_since_nil {Begins Breaks : Occurrence → Prop} : ¬ Since Begins Breaks [] := by
  rintro ⟨earlier, occurrence, later, split, -⟩
  cases earlier <;> cases split

/-- An element of a list with one more at the end is the last one, or stands before it. -/
theorem split_of_concat {α : Type} {past earlier later : List α} {last element : α}
    (split : past ++ [last] = earlier ++ element :: later) :
    (earlier = past ∧ element = last ∧ later = []) ∨
      ∃ front, later = front ++ [last] ∧ past = earlier ++ element :: front := by
  rcases List.eq_nil_or_concat later with rfl | ⟨front, final, rfl⟩
  · obtain ⟨rfl, same⟩ := List.append_inj' split rfl
    cases same
    exact Or.inl ⟨rfl, rfl, rfl⟩
  · rw [List.concat_eq_append, ← List.cons_append, ← List.append_assoc] at split
    obtain ⟨rfl, same⟩ := List.append_inj' split rfl
    cases same
    exact Or.inr ⟨front, List.concat_eq_append, rfl⟩

theorem since_concat {Begins Breaks : Occurrence → Prop} {past : List Occurrence}
    {last : Occurrence} :
    Since Begins Breaks (past ++ [last]) ↔
      Begins last ∨ (Since Begins Breaks past ∧ ¬ Breaks last) := by
  constructor
  · rintro ⟨earlier, occurrence, later, split, begins, unbroken⟩
    rcases split_of_concat split with ⟨-, rfl, -⟩ | ⟨front, rfl, rfl⟩
    · exact Or.inl begins
    · obtain ⟨front, last⟩ := List.forall_mem_append.mp unbroken
      exact Or.inr ⟨⟨earlier, occurrence, _, rfl, begins, front⟩,
        last _ (List.mem_singleton_self _)⟩
  · rintro (begins | ⟨⟨earlier, occurrence, later, rfl, begins, unbroken⟩, kept⟩)
    · exact ⟨past, last, [], rfl, begins, fun other member => by cases member⟩
    · refine ⟨earlier, occurrence, later ++ [last], ?_, begins, ?_⟩
      · rw [List.append_assoc, List.cons_append]
      · exact List.forall_mem_append.mpr ⟨unbroken, List.forall_mem_singleton.mpr kept⟩

/-! ### What one step does -/

/-- All that can happen to a watch. -/
inductive Steps (filter : Filter) (watch : Watch) : Happening → Watch → Prop
  | taken : Steps filter watch .taken { watch with waiting := false }
  | dropped : Steps filter watch .dropped { watch with received := false, waiting := false }
  /-- A watch that has ended neither reads nor ticks. -/
  | stopped {happening : Happening} (ended : watch.result.isSome = true)
      (stays : happening ≠ .dropped) : Steps filter watch happening watch
  | line (text : String) (running : watch.result = none) :
      Steps filter watch (.arrival (.line text))
        { watch with pending := watch.pending || filter.accepts text }
  | failure (reason : String) (running : watch.result = none) :
      Steps filter watch (.arrival (.failure reason)) (watch.finish (.error (.udevMonitor reason)))
  | ended (running : watch.result = none) :
      Steps filter watch (.arrival .ended) (watch.finish (.ok ()))
  | idle (running : watch.result = none) (quiet : watch.pending = false) :
      Steps filter watch .tick watch
  | signal (running : watch.result = none) (pending : watch.pending = true)
      (received : watch.received = true) :
      Steps filter watch .tick { watch with waiting := true, pending := false }
  | gone (running : watch.result = none) (pending : watch.pending = true)
      (left : watch.received = false) :
      Steps filter watch .tick
        { watch with pending := false, result := some (.error Watch.receiverGone) }

/-- **This is what one step does.** -/
theorem steps (filter : Filter) (watch : Watch) (happening : Happening) :
    Steps filter watch happening (watch.step filter happening) := by
  obtain ⟨pending, waiting, received, result⟩ := watch
  cases happening with
  | taken => exact .taken
  | dropped => exact .dropped
  | arrival arrival =>
    cases result with
    | some result => exact .stopped rfl fun same => by cases same
    | none =>
      cases arrival with
      | line text => exact .line text rfl
      | failure reason => exact .failure reason rfl
      | ended => exact .ended rfl
  | tick =>
    cases result with
    | some result => exact .stopped rfl fun same => by cases same
    | none =>
      cases pending with
      | false => exact .idle rfl rfl
      | true =>
        cases received with
        | false => exact .gone rfl rfl rfl
        | true => cases waiting <;> exact .signal rfl rfl rfl

theorem finish_result (watch : Watch) (result : Outcome Unit) :
    (watch.finish result).result = some result := rfl

theorem finish_pending (watch : Watch) (result : Outcome Unit) :
    (watch.finish result).pending = watch.pending := by
  unfold Watch.finish
  split <;> rfl

theorem finish_waiting (watch : Watch) (result : Outcome Unit) :
    (watch.finish result).waiting =
      (watch.waiting || (watch.pending && watch.received)) := by
  obtain ⟨pending, waiting, received, ended⟩ := watch
  cases pending
  · exact (Bool.or_false waiting).symm
  · rfl

theorem finish_received (watch : Watch) (result : Outcome Unit) :
    (watch.finish result).received = watch.received := by
  unfold Watch.finish
  split <;> rfl

theorem step_line {filter : Filter} {watch : Watch} {text : String}
    (running : watch.result = none) :
    watch.step filter (.arrival (.line text)) =
      { watch with pending := watch.pending || filter.accepts text } := by
  obtain ⟨pending, waiting, received, result⟩ := watch
  cases running
  rfl

/-- **Only a line that counts opens a note.** -/
theorem reads_of_opened {filter : Filter} {occurrence : Occurrence}
    (closed : ¬ occurrence.watch.pending = true)
    (opened : (occurrence.after filter).pending = true) : occurrence.Reads filter := by
  obtain ⟨watch, happening⟩ := occurrence
  have step := steps filter watch happening
  unfold Occurrence.after at opened
  generalize watch.step filter happening = next at step opened
  cases step with
  | line text running =>
    rcases Bool.or_eq_true_iff.mp opened with before | accepted
    · exact absurd before closed
    · exact ⟨running, text, rfl, accepted⟩
  | taken | dropped | stopped | idle => exact absurd opened closed
  | failure | ended =>
    rw [finish_pending] at opened
    exact absurd opened closed
  | signal | gone => cases opened

/-- **A note is open when a line that counts has just been read**, or one was open and is not
cleared. -/
theorem pending_after (filter : Filter) (occurrence : Occurrence) :
    (occurrence.after filter).pending = true ↔
      occurrence.Reads filter ∨
        (occurrence.watch.pending = true ∧ ¬ occurrence.Clears filter) := by
  constructor
  · intro opened
    by_cases before : occurrence.watch.pending = true
    · refine Or.inr ⟨before, fun cleared => ?_⟩
      rw [cleared.2] at opened
      cases opened
    · exact Or.inl (reads_of_opened before opened)
  · rintro (⟨running, text, same, accepted⟩ | ⟨before, kept⟩)
    · rw [Occurrence.after, same, step_line running, accepted]
      exact Bool.or_true _
    · cases after : (occurrence.after filter).pending with
      | true => rfl
      | false => exact absurd ⟨before, after⟩ kept

/-- **A signal is put only where a note is open**, at a tick or at the end of the watch. -/
theorem open_of_puts {filter : Filter} {occurrence : Occurrence} (puts : occurrence.Puts filter) :
    occurrence.watch.pending = true ∧
      (occurrence.happening = .tick ∨ ∃ result, occurrence.Ends filter result) := by
  obtain ⟨watch, happening⟩ := occurrence
  obtain ⟨empty, full⟩ := puts
  have step := steps filter watch happening
  simp only [Occurrence.Ends, Occurrence.after] at full empty ⊢
  generalize watch.step filter happening = next at step full ⊢
  cases step with
  | signal running pending received => exact ⟨pending, Or.inl rfl⟩
  | failure | ended =>
    rename_i running
    rw [finish_waiting, empty, Bool.false_or] at full
    exact ⟨(Bool.and_eq_true_iff.mp full).1, Or.inr ⟨_, running, rfl⟩⟩
  | taken | dropped => cases full
  | stopped | line | idle | gone =>
    rw [empty] at full
    cases full

/-- **The watch ends** at the end of the lines, with an error where they cannot be read, or when it
has a signal for a receiver that is gone. -/
theorem ends_iff (filter : Filter) (occurrence : Occurrence) (result : Outcome Unit) :
    occurrence.Ends filter result ↔ occurrence.watch.result = none ∧
      ((occurrence.happening = .arrival .ended ∧ result = .ok ()) ∨
        (∃ reason, occurrence.happening = .arrival (.failure reason) ∧
          result = .error (.udevMonitor reason)) ∨
        (occurrence.happening = .tick ∧ occurrence.watch.pending = true ∧
          occurrence.watch.received = false ∧ result = .error Watch.receiverGone)) := by
  obtain ⟨watch, happening⟩ := occurrence
  have step := steps filter watch happening
  simp only [Occurrence.Ends, Occurrence.after]
  generalize watch.step filter happening = next at step ⊢
  refine and_congr_right fun running => ?_
  cases step with
  | taken | dropped | line => simp [running]
  | stopped ended =>
    rw [running] at ended
    cases ended
  | failure reason =>
    rw [finish_result, Option.some_inj, eq_comm]
    simp
  | ended =>
    rw [finish_result, Option.some_inj, eq_comm]
    simp
  | idle _ quiet => simp [running, quiet]
  | signal _ pending received => simp [running, received]
  | gone _ pending left =>
    rw [Option.some_inj, eq_comm]
    simp [pending, left]

/-- What was read and is not taken is noted or in the channel, at the end in the channel. -/
def Kept (filter : Filter) (past : List Occurrence) (watch : Watch) : Prop :=
  Since (Occurrence.Reads filter) Occurrence.Takes past →
    (watch.pending = true ∨ watch.waiting = true) ∧
      (watch.result.isSome = true → watch.waiting = true)

/-- **One step keeps what was read**, as long as there is a receiver. -/
theorem kept_step {filter : Filter} {past : List Occurrence} {watch : Watch}
    {happening : Happening} (kept : Kept filter past watch) (received : watch.received = true)
    (stays : happening ≠ .dropped) :
    Kept filter (past ++ [⟨watch, happening⟩]) (watch.step filter happening) := by
  intro since
  rcases since_concat.mp since with ⟨running, text, rfl, accepted⟩ | ⟨since, untaken⟩
  · rw [step_line running, accepted]
    refine ⟨Or.inl (Bool.or_true _), fun ended => ?_⟩
    rw [running] at ended
    cases ended
  · obtain ⟨somewhere, atEnd⟩ := kept since
    have step := steps filter watch happening
    generalize watch.step filter happening = next at step ⊢
    cases step with
    | taken =>
      -- The channel was empty, so nothing was taken.
      have empty : watch.waiting ≠ true := fun waiting => untaken ⟨rfl, waiting⟩
      exact ⟨Or.inl (somewhere.resolve_right empty), fun ended => absurd (atEnd ended) empty⟩
    | dropped => exact absurd rfl stays
    | stopped | idle => exact ⟨somewhere, atEnd⟩
    | line text running =>
      refine ⟨somewhere.imp_left fun pending => ?_, atEnd⟩
      rw [pending]
      rfl
    | failure | ended =>
      have full : (watch.waiting || (watch.pending && watch.received)) = true := by
        rw [received, Bool.and_true, Bool.or_comm]
        exact Bool.or_eq_true_iff.mpr somewhere
      rw [finish_waiting, full]
      exact ⟨Or.inr rfl, fun _ => rfl⟩
    | signal => exact ⟨Or.inr rfl, fun _ => rfl⟩
    | gone running pending left =>
      rw [received] at left
      cases left

/-- A watch ends once. -/
theorem result_of_ended {filter : Filter} {watch : Watch} (ended : watch.result.isSome = true)
    (happening : Happening) : (watch.step filter happening).result = watch.result := by
  have step := steps filter watch happening
  generalize watch.step filter happening = next at step ⊢
  cases step with
  | taken | dropped | stopped | line | idle | signal => rfl
  | failure _ running | ended running | gone running =>
    rw [running] at ended
    cases ended

theorem countP_one {α : Type} (test : α → Bool) (element : α) :
    [element].countP test = (test element).toNat := by
  cases tested : test element <;> simp [tested]

/-- **A signal costs a tick or the end of the watch.** -/
theorem puts_step (filter : Filter) (watch : Watch) (happening : Happening) :
    (decide (Occurrence.Puts filter ⟨watch, happening⟩)).toNat + watch.result.isSome.toNat ≤
      (happening == .tick).toNat + (watch.step filter happening).result.isSome.toNat := by
  have stays : watch.result.isSome.toNat ≤
      (watch.step filter happening).result.isSome.toNat := by
    cases ended : watch.result.isSome with
    | false => exact Nat.zero_le _
    | true =>
      rw [result_of_ended ended]
      exact Nat.le_of_eq (by rw [ended])
  by_cases puts : Occurrence.Puts filter ⟨watch, happening⟩
  · rw [decide_eq_true puts]
    rcases (open_of_puts puts).2 with tick | ⟨result, running, ended⟩
    · rw [show (happening == .tick) = true from beq_iff_eq.mpr tick]
      exact Nat.add_le_add_left stays _
    · have unended : watch.result = none := running
      have nowEnded : (watch.step filter happening).result = some result := ended
      rw [unended, nowEnded]
      exact Nat.le_add_left _ _
  · rw [decide_eq_false puts, Bool.toNat_false, Nat.zero_add]
    exact Nat.le_trans stays (Nat.le_add_left _ _)

/-! ### Runs -/

namespace Run

variable {filter : Filter} {past : List Occurrence} {watch : Watch}

/-- What precedes an occurrence is a run that leads to its watch. -/
theorem before {earlier later : List Occurrence} {occurrence : Occurrence}
    (run : Run filter past watch) (split : past = earlier ++ occurrence :: later) :
    Run filter earlier occurrence.watch := by
  induction run generalizing later with
  | start => cases earlier <;> cases split
  | @step past watch happening run ih =>
    rcases split_of_concat split with ⟨rfl, rfl, -⟩ | ⟨front, rfl, same⟩
    · exact run
    · exact ih same

/-- The receiver is there until it goes away. -/
theorem received_iff (run : Run filter past watch) :
    watch.received = true ↔ ∀ occurrence ∈ past, occurrence.happening ≠ .dropped := by
  induction run with
  | start => exact iff_of_true rfl fun _ member => by cases member
  | @step past watch happening run ih =>
    have step := steps filter watch happening
    generalize watch.step filter happening = next at step ⊢
    rw [List.forall_mem_append, List.forall_mem_singleton, ← ih]
    cases step with
    | dropped => exact iff_of_false (fun impossible => by cases impossible) fun all => all.2 rfl
    | stopped ended stays => exact (and_iff_left stays).symm
    | failure | ended =>
      rw [finish_received]
      exact (and_iff_left fun impossible => by cases impossible).symm
    | taken | line | idle | signal | gone =>
      exact (and_iff_left fun impossible => by cases impossible).symm

/-- **A note is open exactly when a line has counted since notes were last cleared.** -/
theorem pending_iff (run : Run filter past watch) :
    watch.pending = true ↔
      Since (Occurrence.Reads filter) (Occurrence.Clears filter) past := by
  induction run with
  | start => exact iff_of_false (by decide) not_since_nil
  | @step past watch happening run ih =>
    rw [since_concat, ← ih]
    exact pending_after filter ⟨watch, happening⟩

/-- **Nothing that was read is lost** while there is a receiver. -/
theorem kept (run : Run filter past watch)
    (stays : ∀ occurrence ∈ past, occurrence.happening ≠ .dropped) : Kept filter past watch := by
  induction run with
  | start => exact fun since => absurd since not_since_nil
  | @step past watch happening run ih =>
    obtain ⟨before, last⟩ := List.forall_mem_append.mp stays
    exact kept_step (ih before) (run.received_iff.mpr before)
      (last _ (List.mem_singleton_self _))

/-- **There are no more signals than ticks**, but for one at the end of the watch. -/
theorem puts_le (run : Run filter past watch) :
    past.countP (fun occurrence => decide (occurrence.Puts filter)) ≤
      past.countP (fun occurrence => occurrence.happening == .tick) +
        watch.result.isSome.toNat := by
  induction run with
  | start => exact Nat.zero_le _
  | @step past watch happening run ih =>
    have one := puts_step filter watch happening
    rw [List.countP_append, List.countP_append, countP_one, countP_one]
    dsimp only
    omega

/-- A watch has ended if and as it once did. -/
theorem result_iff (run : Run filter past watch) (result : Outcome Unit) :
    watch.result = some result ↔ ∃ occurrence ∈ past, occurrence.Ends filter result := by
  induction run with
  | start => exact iff_of_false (fun same => by cases same) fun ⟨_, member, _⟩ => by cases member
  | @step past watch happening run ih =>
    have later : (∃ occurrence ∈ past ++ [⟨watch, happening⟩], occurrence.Ends filter result) ↔
        watch.result = some result ∨ Occurrence.Ends filter ⟨watch, happening⟩ result := by
      rw [ih]
      simp [or_and_right, exists_or]
    rw [later]
    cases before : watch.result with
    | none =>
      refine ⟨fun now => Or.inr ⟨before, now⟩, ?_⟩
      rintro (impossible | ⟨-, now⟩)
      · cases impossible
      · exact now
    | some found =>
      rw [result_of_ended (by rw [before]; rfl), before]
      refine ⟨Or.inl, ?_⟩
      rintro (same | ⟨running, -⟩)
      · exact same
      · rw [show watch.result = none from running] at before
        cases before

end Run

/-- Whatever happens to a watch that has seen nothing yet, it is a run. -/
theorem run_of_happenings (filter : Filter) {past : List Occurrence} {watch : Watch}
    (run : Run filter past watch) (happenings : List Happening) :
    Run filter (past ++ occurrences filter watch happenings)
      (happenings.foldl (Watch.step filter) watch) := by
  induction happenings generalizing past watch with
  | nil =>
    rw [occurrences, List.append_nil]
    exact run
  | cons happening happenings ih =>
    have further := ih (run.step happening)
    rw [List.append_assoc] at further
    exact further

/-! ### All together -/

/-- **What a watch owes its receiver**, after all that happened. -/
structure Faithful (filter : Filter) (past : List Occurrence) (watch : Watch) : Prop where
  /-- While there is a receiver, a line that counts and after which no signal was taken is noted or
  stands in the channel, and in the channel once the watch has ended. -/
  kept : (∀ occurrence ∈ past, occurrence.happening ≠ .dropped) →
    Since (Occurrence.Reads filter) Occurrence.Takes past →
    (watch.pending = true ∨ watch.waiting = true) ∧
      (watch.result.isSome = true → watch.waiting = true)
  /-- Before every signal a line was read that counts, after notes were last cleared. -/
  earned : ∀ earlier occurrence later, past = earlier ++ occurrence :: later →
    occurrence.Puts filter →
    Since (Occurrence.Reads filter) (Occurrence.Clears filter) earlier
  /-- Every signal is put at a tick or as the watch ends. -/
  timely : ∀ occurrence ∈ past, occurrence.Puts filter →
    occurrence.happening = .tick ∨ ∃ result, occurrence.Ends filter result
  /-- There are no more signals than ticks, and one more once the watch has ended. -/
  few : past.countP (fun occurrence => decide (occurrence.Puts filter)) ≤
    past.countP (fun occurrence => occurrence.happening == .tick) + watch.result.isSome.toNat
  /-- The watch ends well exactly at the end of the lines. -/
  endsWell : ∀ earlier occurrence later, past = earlier ++ occurrence :: later →
    (occurrence.Ends filter (.ok ()) ↔
      occurrence.watch.result = none ∧ occurrence.happening = .arrival .ended)
  /-- It ends with an error exactly where lines cannot be read, or at a tick that finds a note
  after the receiver went away. -/
  fails : ∀ earlier occurrence later cause, past = earlier ++ occurrence :: later →
    (occurrence.Ends filter (.error cause) ↔ occurrence.watch.result = none ∧
      ((∃ reason, occurrence.happening = .arrival (.failure reason) ∧
          cause = .udevMonitor reason) ∨
        (occurrence.happening = .tick ∧ occurrence.watch.pending = true ∧
          (∃ other ∈ earlier, other.happening = .dropped) ∧ cause = Watch.receiverGone)))
  /-- The result of a watch is the one that it ended with. -/
  result : ∀ result, watch.result = some result ↔
    ∃ occurrence ∈ past, occurrence.Ends filter result

/-- **A run is faithful.** -/
theorem Run.faithful {filter : Filter} {past : List Occurrence} {watch : Watch}
    (run : Run filter past watch) : Faithful filter past watch where
  kept := run.kept
  earned earlier occurrence later split puts :=
    (run.before split).pending_iff.mp (open_of_puts puts).1
  timely occurrence _ puts := (open_of_puts puts).2
  few := run.puts_le
  endsWell earlier occurrence later split := by
    rw [ends_iff]
    simp
  fails earlier occurrence later cause split := by
    have gone : occurrence.watch.received = false ↔
        ∃ other ∈ earlier, other.happening = .dropped := by
      rw [← Bool.not_eq_true, (run.before split).received_iff]
      simp
    rw [ends_iff, ← gone]
    simp
  result := run.result_iff

/-- **No change is lost, made up or told twice**, whatever happens to a watch and its receiver, and
in whatever order. -/
theorem faithful_of_happenings (filter : Filter) (happenings : List Happening) :
    Faithful filter (occurrences filter Watch.start happenings)
      (happenings.foldl (Watch.step filter) Watch.start) :=
  (run_of_happenings filter .start happenings).faithful

/-! ### Monitors -/

/-- The watch can be reached. -/
def Reached (filter : Filter) (watch : Watch) : Prop :=
  ∃ past, Run filter past watch

theorem Reached.step {filter : Filter} {watch : Watch} (reached : Reached filter watch)
    (happening : Happening) : Reached filter (watch.step filter happening) := by
  obtain ⟨past, run⟩ := reached
  exact ⟨_, run.step happening⟩

namespace Course

variable {filter : Filter} {course : Course}

theorem reached_listen (reached : Reached filter course.watch) (time : Nat) :
    Reached filter (course.listen filter time).watch := by
  unfold listen
  by_cases waiting : course.watch.waiting = true
  · rw [if_pos waiting]
    dsimp only
    split <;> exact reached.step .taken
  · rw [if_neg waiting]
    dsimp only
    split <;> exact reached

theorem reached_poll (reached : Reached filter course.watch) (time : Nat) :
    Reached filter (course.poll filter time).watch := by
  unfold poll
  split
  · exact reached.step .taken
  · split <;> exact reached

theorem reached_advance (reached : Reached filter course.watch) (isEager : Bool) (time : Nat)
    (moment : Moment) : Reached filter (course.advance filter isEager time moment).watch := by
  cases moment with
  | poll => exact reached_poll reached time
  | happening happening =>
    let moved : Course := { course with watch := course.watch.step filter happening }
    have heard : Reached filter (if isEager then moved.listen filter time else moved).watch := by
      cases isEager with
      | false => exact reached.step happening
      | true => exact reached_listen (reached.step happening) time
    -- Whether the end is noted makes no difference to the watch.
    have noted (course : Course) (ends : Bool) (before : Reached filter course.watch) :
        Reached filter (if ends then { course with endedAt := some time } else course).watch := by
      cases ends <;> exact before
    exact noted _ _ heard

end Course

/-- **The watch of a monitor is reached by a run**, and so it is faithful. -/
theorem Monitor.faithful (monitor : Monitor) (deliveries : List (Nat × Delivery))
    (receiver : Receiver) :
    ∃ past, Faithful monitor.filter past (monitor.watch deliveries receiver).watch := by
  have reached : Reached monitor.filter (monitor.watch deliveries receiver).watch := by
    unfold Monitor.watch
    refine List.foldlRecOn (motive := fun course : Course => Reached monitor.filter course.watch)
      (moments monitor deliveries receiver) _ ⟨[], .start⟩ ?_
    exact fun course before moment _ =>
      Course.reached_advance before receiver.isEager moment.1 moment.2
  obtain ⟨past, run⟩ := reached
  exact ⟨past, run.faithful⟩

end NodeStorage.Udev
