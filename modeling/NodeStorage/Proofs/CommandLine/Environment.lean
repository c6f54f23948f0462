/-
**What the words leave open is taken from the environment.**

The words of a command line are read without the environment; then every option that they do not
give takes its value from it, one option after another, and the first value that does not fit stops
the reading. As no two options of a command have one name, the options do not get in each other's
way: what is taken for one depends on the words and on its own variable alone.

* `fromEnvironment_eq` — the values that are taken and the first complaint, in closed form.
* `lookup?_of_fromEnvironment` — the value that an option has in the end.
* `readInvocation_eq` — a command line is read by its words first (`readLine`) and completed from
  the environment then (`Line.complete`).
-/

import Mathlib.Data.List.Basic
import NodeStorage.CommandLine.Program
import NodeStorage.Proofs.Outcome

namespace NodeStorage.CommandLine

/-! ### Looking up -/

theorem Values.lookup?_append (values more : Values) (name : String) :
    Values.lookup? (values ++ more) name = (values.lookup? name).or (more.lookup? name) := by
  rw [lookup?, List.find?_append, Option.map_or]
  rfl

theorem Environment.lookup?_append (environment more : Environment) (name : String) :
    Environment.lookup? (environment ++ more) name =
      (environment.lookup? name).or (more.lookup? name) :=
  Values.lookup?_append environment more name

theorem Values.lookup?_eq_none_iff {values : Values} {name : String} :
    values.lookup? name = none ↔ ∀ entry ∈ values, entry.1 ≠ name := by
  simp [lookup?]

/-! ### One option after another -/

namespace Environment

/-- What the environment has for an option that has no value. -/
def drawn? (environment : Environment) (values : Values) (spec : OptionSpec) : Option String :=
  if (values.lookup? spec.name).isSome then none else environment.lookup? spec.source

/-- What is wrong with it. -/
def complaint? (environment : Environment) (values : Values) (spec : OptionSpec) :
    Option UsageError :=
  match (environment.drawn? values spec).map spec.check with
  | some (.error cause) => some cause
  | _ => none

/-- The value as it is added to the others. -/
def added? (environment : Environment) (values : Values) (spec : OptionSpec) :
    Option (String × String) :=
  (environment.drawn? values spec).map fun value => (spec.name, value)

variable {environment : Environment} {values : Values} {spec : OptionSpec} {value : String}

theorem complaint?_of_none (nothing : environment.drawn? values spec = none) :
    environment.complaint? values spec = none := by
  rw [complaint?, nothing]
  rfl

theorem complaint?_of_error {cause : UsageError}
    (drawn : environment.drawn? values spec = some value)
    (unfit : spec.check value = .error cause) :
    environment.complaint? values spec = some cause := by
  rw [complaint?, drawn, Option.map_some, unfit]

theorem complaint?_of_ok (drawn : environment.drawn? values spec = some value)
    (fits : spec.check value = .ok ()) : environment.complaint? values spec = none := by
  rw [complaint?, drawn, Option.map_some, fits]

/-- A value for another option makes no difference. -/
theorem drawn?_append {name : String} (differs : name ≠ spec.name) :
    environment.drawn? (values ++ [(name, value)]) spec = environment.drawn? values spec := by
  have other : Values.lookup? [(name, value)] spec.name = none := by
    simpa [Values.lookup?_eq_none_iff] using differs
  rw [drawn?, Values.lookup?_append, other, Option.or_none]
  rfl

end Environment

section Drawing

open Environment

variable {environment : Environment} {values : Values} {specs : List OptionSpec}

/-- An option with nothing to take is passed over. -/
theorem fromEnvironment_cons_of_none {spec : OptionSpec}
    (nothing : environment.drawn? values spec = none) :
    fromEnvironment environment values (spec :: specs) =
      fromEnvironment environment values specs := by
  rw [fromEnvironment]
  rw [drawn?] at nothing
  cases given : values.lookup? spec.name with
  | some value => rfl
  | none =>
    rw [given] at nothing
    rw [show environment.lookup? spec.source = none from nothing]

/-- What is taken for an option is checked and added to the values. -/
theorem fromEnvironment_cons_of_some {spec : OptionSpec} {value : String}
    (drawn : environment.drawn? values spec = some value) :
    fromEnvironment environment values (spec :: specs) =
      spec.check value >>= fun _ =>
        fromEnvironment environment (values ++ [(spec.name, value)]) specs := by
  rw [fromEnvironment]
  rw [drawn?] at drawn
  cases given : values.lookup? spec.name with
  | some other =>
    rw [given] at drawn
    cases drawn
  | none =>
    rw [given] at drawn
    rw [show environment.lookup? spec.source = some value from drawn]

/-- **The values from the environment**: the first that does not fit is an error, and if all fit
they stand behind the others. -/
theorem fromEnvironment_eq (distinct : (specs.map OptionSpec.name).Nodup) :
    fromEnvironment environment values specs =
      match specs.filterMap (environment.complaint? values) with
      | cause :: _ => .error cause
      | [] => .ok (values ++ specs.filterMap (environment.added? values)) := by
  induction specs generalizing values with
  | nil => simp [fromEnvironment]
  | cons spec specs ih =>
    obtain ⟨fresh, distinct⟩ := List.nodup_cons.mp distinct
    cases drawn : environment.drawn? values spec with
    | none =>
      have absent : environment.added? values spec = none := by rw [added?, drawn]; rfl
      rw [fromEnvironment_cons_of_none drawn, List.filterMap_cons_none (complaint?_of_none drawn),
        List.filterMap_cons_none absent, ih distinct]
    | some value =>
      rw [fromEnvironment_cons_of_some drawn]
      cases checked : spec.check value with
      | error cause =>
        rw [List.filterMap_cons_some (complaint?_of_error drawn checked)]
        rfl
      | ok _ =>
        have present : environment.added? values spec = some (spec.name, value) := by
          rw [added?, drawn]
          rfl
        -- What is taken for this option is not asked for again.
        have others : ∀ other ∈ specs, environment.drawn? (values ++ [(spec.name, value)]) other =
            environment.drawn? values other := by
          intro other member
          refine drawn?_append fun same => fresh ?_
          rw [same]
          exact List.mem_map_of_mem member
        have complaints :
            specs.filterMap (environment.complaint? (values ++ [(spec.name, value)])) =
              specs.filterMap (environment.complaint? values) := by
          refine List.filterMap_congr fun other member => ?_
          rw [complaint?, others other member]
          rfl
        have entries : specs.filterMap (environment.added? (values ++ [(spec.name, value)])) =
            specs.filterMap (environment.added? values) := by
          refine List.filterMap_congr fun other member => ?_
          rw [added?, others other member]
          rfl
        show fromEnvironment environment (values ++ [(spec.name, value)]) specs = _
        rw [ih distinct, complaints, entries,
          List.filterMap_cons_none (complaint?_of_ok drawn checked),
          List.filterMap_cons_some present, List.append_assoc]
        rfl

/-- **All is well** when there is no complaint about any option. -/
theorem fromEnvironment_eq_ok_iff (distinct : (specs.map OptionSpec.name).Nodup)
    {result : Values} :
    fromEnvironment environment values specs = .ok result ↔
      (∀ spec ∈ specs, environment.complaint? values spec = none) ∧
        result = values ++ specs.filterMap (environment.added? values) := by
  rw [fromEnvironment_eq distinct, ← List.filterMap_eq_nil_iff]
  cases specs.filterMap (environment.complaint? values) with
  | nil => simp [eq_comm]
  | cons cause causes => simp

/-- What is added for an option is found under its name. -/
theorem lookup?_entries (distinct : (specs.map OptionSpec.name).Nodup) {spec : OptionSpec}
    (member : spec ∈ specs) :
    Values.lookup? (specs.filterMap (environment.added? values)) spec.name =
      environment.drawn? values spec := by
  induction specs with
  | nil => cases member
  | cons other specs ih =>
    obtain ⟨fresh, distinct⟩ := List.nodup_cons.mp distinct
    have named : ∀ entry ∈ (environment.added? values other).toList, entry.1 = other.name := by
      intro entry added
      obtain ⟨value, -, rfl⟩ := Option.map_eq_some_iff.mp (Option.mem_toList.mp added)
      rfl
    have split : (other :: specs).filterMap (environment.added? values) =
        (environment.added? values other).toList ++
          specs.filterMap (environment.added? values) := by
      rw [List.filterMap_cons]
      cases environment.added? values other <;> rfl
    rw [split, Values.lookup?_append]
    rcases List.mem_cons.mp member with rfl | later
    · have rest :
          Values.lookup? (specs.filterMap (environment.added? values)) spec.name = none := by
        rw [Values.lookup?_eq_none_iff]
        intro entry added same
        obtain ⟨later, taken, found⟩ := List.mem_filterMap.mp added
        obtain ⟨value, -, rfl⟩ := Option.map_eq_some_iff.mp found
        exact fresh (List.mem_map.mpr ⟨later, taken, same⟩)
      rw [rest, Option.or_none, added?]
      cases environment.drawn? values spec <;> simp [Values.lookup?]
    · have differs : Values.lookup? (environment.added? values other).toList spec.name = none := by
        rw [Values.lookup?_eq_none_iff]
        intro entry added same
        refine fresh (List.mem_map.mpr ⟨spec, later, ?_⟩)
        rw [← same, named entry added]
      rw [differs, Option.none_or, ih distinct later]

/-- **The value that an option has in the end** is the given one, or the one of its variable. -/
theorem lookup?_of_fromEnvironment (distinct : (specs.map OptionSpec.name).Nodup)
    {result : Values} (worked : fromEnvironment environment values specs = .ok result)
    {spec : OptionSpec} (member : spec ∈ specs) :
    result.lookup? spec.name =
      (values.lookup? spec.name).or (environment.lookup? spec.source) := by
  obtain ⟨-, rfl⟩ := (fromEnvironment_eq_ok_iff distinct).mp worked
  rw [Values.lookup?_append, lookup?_entries distinct member, drawn?]
  cases values.lookup? spec.name <;> rfl

end Drawing

/-! ### Words first -/

/-- A command line as far as its words go. -/
structure Line where
  command : CommandSpec
  /-- The values that stand after the command. -/
  given : Values
  /-- The values that stand in front of it, if they can be taken. -/
  before : Except UsageError Values

/-- All options of the command, with the last ones being those of all commands. -/
def Line.options (line : Line) : List OptionSpec :=
  line.command.options ++ globalOptions

/-- Reads the words. -/
def readLine (words : List String) : Except UsageError Line := do
  let top ← readWords topLevel .start words
  match top.command with
  | none => do
    let _ ← top.reading.settle
    throw .missingCommand
  | some (name, rest) =>
    match commandSpecs.find? fun spec => spec.name == name with
    | none => throw (explain rest)
    | some command => do
      let result ← readWords ⟨command.options ++ globalOptions, [], false⟩ .start rest
      let given ← result.reading.settle
      pure ⟨command, given.values, top.reading.settle.map Reading.values⟩

/-- Takes what is left open from the environment. -/
def Line.complete (line : Line) (environment : Environment) : Except UsageError Invocation := do
  let values ← fromEnvironment environment line.given line.options
  let before ← line.before
  let globals ← fromEnvironment environment before globalOptions
  let level := (globalValue? line.given globals "log-level").getD "info"
  let json := (globalValue? line.given globals "log-json").getD "false"
  pure ⟨LogLevel.ofText level, json == "true", line.command.build values⟩

/-- **A command line is read by its words first.** -/
theorem readInvocation_eq (environment : Environment) (words : List String) :
    readInvocation environment words =
      readLine words >>= fun line => line.complete environment := by
  rw [readInvocation, readLine]
  cases readWords topLevel .start words with
  | error cause => rfl
  | ok top =>
    obtain ⟨reading, command⟩ := top
    cases command with
    | none =>
      simp only [bind, Except.bind]
      cases reading.settle <;> rfl
    | some named =>
      obtain ⟨name, rest⟩ := named
      simp only [bind, Except.bind]
      cases found : commandSpecs.find? fun spec => spec.name == name with
      | none => rfl
      | some command =>
        simp only
        cases readWords ⟨command.options ++ globalOptions, [], false⟩ .start rest with
        | error cause => rfl
        | ok result =>
          simp only
          cases result.reading.settle with
          | error cause => rfl
          | ok given =>
            simp only [Line.complete, Line.options]
            cases reading.settle <;> rfl

/-- Every command that is read is one of the commands. -/
theorem command_of_readLine {words : List String} {line : Line} (read : readLine words = .ok line) :
    line.command ∈ commandSpecs := by
  obtain ⟨top, -, rest⟩ := bind_eq_ok read
  split at rest
  · obtain ⟨_, -, last⟩ := bind_eq_ok rest
    cases last
  · split at rest
    · cases rest
    · rename_i found
      obtain ⟨_, -, rest⟩ := bind_eq_ok rest
      obtain ⟨_, -, last⟩ := bind_eq_ok rest
      cases last
      exact List.mem_of_find?_eq_some found

end NodeStorage.CommandLine
