/-
**Variables that are set to nothing.**

An environment often comes from a template, and a value that is left out there becomes a variable
that is set to the empty text. To an option the empty text is a value, and what becomes of it
depends on who reads it.

* Options that check their values refuse it (`choosy`): the program ends before it begins.
* Options with a default that is not empty have it instead of the default (`defaulted`).
* All others are read by someone who takes a blank text for none.

So setting variables to nothing goes unnoticed as long as none of them reaches an option of the
first two kinds (`start_withEmpty`), and `empty_values_noticed` says exactly when the program still
ends the same way. Two facts carry this: an option has what it had before or else the empty text
(`lookup?_of_withEmpty`), and a command that is built from such values follows the one that was
built before (`Follows`, `follows_build`).
-/

import NodeStorage.Proofs.CommandLine.Environment
import NodeStorage.Proofs.Text.Trim

namespace NodeStorage

namespace Provisioning

/-! ### Texts that a job is given -/

/-- The arguments with their texts as they count. -/
def JobArguments.plain (arguments : JobArguments) : JobArguments where
  operation := arguments.operation
  filesystemName := Text.present? arguments.filesystemName
  namespaceName := Text.present? arguments.namespaceName
  jobName := Text.present? arguments.jobName
  newLuns := Text.present? arguments.newLuns
  reusedLuns := Text.present? arguments.reusedLuns
  fusionNamespace := Text.present? arguments.fusionNamespace
  targetName := Text.present? arguments.targetName
  targetNamespace := Text.present? arguments.targetNamespace
  failedJobName := Text.present? arguments.failedJobName
  failedJobNamespace := Text.present? arguments.failedJobNamespace
  createdResources := Text.present? arguments.createdResources

/-- **A request is made of the texts that count**, without the white space around them. -/
theorem JobArguments.toRequest_plain (arguments : JobArguments) :
    arguments.plain.toRequest = arguments.toRequest := by
  simp only [toRequest, createRequest, cleanupRequest, target, failedJob, objectName?, created,
    required, lunsOf, plain, Text.present?_idem]

end Provisioning

namespace CommandLine

open Discovery Provisioning

/-! ### Setting variables to nothing -/

namespace Environment

/-- The environment in which those of the names that are not set are set to the empty text. -/
def withEmpty (environment : Environment) (names : List String) : Environment :=
  environment ++ names.map fun name => (name, "")

/-- What a variable has then that was not set. -/
def emptied (names : List String) (name : String) : Option String :=
  if name ∈ names then some "" else none

/-- The variables whose options refuse the empty text. -/
def choosy : List String :=
  ["LOG_JSON", "OPERATION", "PROBE_INTERVAL_SECS", "UDEV_EVENT_PERIOD_SECS"]

/-- The variables whose options have a default that is not empty. -/
def defaulted : List String :=
  ["DISCOVERY_OBJECT_NAME", "METRICS_ADDR", "DISCOVERY_DAEMONSET"]

/-- An option without a value gets the empty text. -/
def Gains (environment : Environment) (names : List String) (values : Values) (spec : OptionSpec) :
    Prop :=
  values.lookup? spec.name = none ∧ environment.lookup? spec.source = none ∧ spec.source ∈ names

/-- With these words, an option of one of some sources gets the empty text. -/
def Reached (environment : Environment) (words names sources : List String) : Prop :=
  ∃ line, readLine words = .ok line ∧ ∃ spec, spec.source ∈ sources ∧
    ((spec ∈ line.options ∧ environment.Gains names line.given spec) ∨
      (spec ∈ globalOptions ∧ ∃ before, line.before = .ok before ∧
        environment.Gains names before spec))

variable {environment : Environment} {names : List String} {values : Values} {spec : OptionSpec}

/-- A variable that is set stays as it is. -/
theorem lookup?_withEmpty (environment : Environment) (names : List String) (name : String) :
    (environment.withEmpty names).lookup? name =
      (environment.lookup? name).or (emptied names name) := by
  have added : Environment.lookup? (names.map fun name => (name, "")) name =
      emptied names name := by
    rw [lookup?, List.find?_map, Option.map_map, emptied]
    by_cases named : name ∈ names
    · have found : (names.find? fun first => first == name).isSome := by simpa using named
      obtain ⟨first, is⟩ := Option.isSome_iff_exists.mp found
      rw [if_pos named]
      exact Option.map_eq_some_iff.mpr ⟨first, is, rfl⟩
    · rw [if_neg named, Option.map_eq_none_iff, List.find?_eq_none]
      intro first member same
      exact named (beq_iff_eq.mp same ▸ member)
  rw [withEmpty, lookup?_append, added]

/-- An option that gets the empty text has nothing otherwise. -/
theorem Gains.drawn? (gains : environment.Gains names values spec) :
    (environment.withEmpty names).drawn? values spec = some "" := by
  obtain ⟨missing, unset, named⟩ := gains
  rw [Environment.drawn?, missing, lookup?_withEmpty, unset, emptied, if_pos named]
  rfl

theorem drawn?_withEmpty (spared : ¬ environment.Gains names values spec) :
    (environment.withEmpty names).drawn? values spec = environment.drawn? values spec := by
  rw [drawn?, drawn?, lookup?_withEmpty]
  cases given : values.lookup? spec.name with
  | some value => rfl
  | none =>
    cases set : environment.lookup? spec.source with
    | some value => rfl
    | none =>
      have unnamed : spec.source ∉ names := fun named => spared ⟨given, set, named⟩
      rw [emptied, if_neg unnamed]
      rfl

/-- Where the empty text fits, nobody complains about it. -/
theorem complaint?_withEmpty
    (fits : environment.Gains names values spec → spec.check "" = .ok ()) :
    (environment.withEmpty names).complaint? values spec = environment.complaint? values spec := by
  by_cases gains : environment.Gains names values spec
  · have nothing : environment.drawn? values spec = none := by
      rw [drawn?, gains.1, gains.2.1]
      rfl
    rw [complaint?_of_ok gains.drawn? (fits gains), complaint?_of_none nothing]
  · rw [complaint?, drawn?_withEmpty gains]
    rfl

end Environment

open Environment

variable {environment : Environment} {names : List String}

section Drawing

variable {values : Values} {specs : List OptionSpec}

/-- An option that refuses the empty text stops the reading. -/
theorem fromEnvironment_withEmpty_refused (distinct : (specs.map OptionSpec.name).Nodup)
    {spec : OptionSpec} (member : spec ∈ specs) (gains : environment.Gains names values spec)
    (refuses : spec.check "" ≠ .ok ()) :
    ∃ cause, fromEnvironment (environment.withEmpty names) values specs = .error cause := by
  cases read : fromEnvironment (environment.withEmpty names) values specs with
  | error cause => exact ⟨cause, rfl⟩
  | ok result =>
    obtain ⟨fine, -⟩ := (fromEnvironment_eq_ok_iff distinct).mp read
    cases checked : spec.check "" with
    | ok _ => exact absurd checked refuses
    | error cause =>
      have none := fine spec member
      rw [complaint?_of_error gains.drawn? checked] at none
      cases none

/-- Otherwise the reading comes as far as before. -/
theorem fromEnvironment_withEmpty (distinct : (specs.map OptionSpec.name).Nodup)
    (fits : ∀ spec ∈ specs, environment.Gains names values spec → spec.check "" = .ok ()) :
    (∃ cause, fromEnvironment environment values specs = .error cause ∧
      fromEnvironment (environment.withEmpty names) values specs = .error cause) ∨
    ∃ before after, fromEnvironment environment values specs = .ok before ∧
      fromEnvironment (environment.withEmpty names) values specs = .ok after := by
  have complaints : specs.filterMap ((environment.withEmpty names).complaint? values) =
      specs.filterMap (environment.complaint? values) :=
    List.filterMap_congr fun spec member => complaint?_withEmpty (fits spec member)
  rw [fromEnvironment_eq distinct, fromEnvironment_eq distinct, complaints]
  cases specs.filterMap (environment.complaint? values) with
  | cons cause causes => exact .inl ⟨cause, rfl, rfl⟩
  | nil => exact .inr ⟨_, _, rfl, rfl⟩

variable {before after : Values}

/-- What was left open is the empty text now. -/
theorem lookup?_of_withEmpty (distinct : (specs.map OptionSpec.name).Nodup)
    (first : fromEnvironment environment values specs = .ok before)
    (second : fromEnvironment (environment.withEmpty names) values specs = .ok after)
    {spec : OptionSpec} (member : spec ∈ specs) :
    after.lookup? spec.name = (before.lookup? spec.name).or (emptied names spec.source) := by
  rw [lookup?_of_fromEnvironment distinct first member,
    lookup?_of_fromEnvironment distinct second member, lookup?_withEmpty, Option.or_assoc]

/-- An option has the value that it had unless it gets the empty text. -/
theorem lookup?_eq_iff_not_gains (distinct : (specs.map OptionSpec.name).Nodup)
    (first : fromEnvironment environment values specs = .ok before)
    (second : fromEnvironment (environment.withEmpty names) values specs = .ok after)
    {spec : OptionSpec} (member : spec ∈ specs) :
    after.lookup? spec.name = before.lookup? spec.name ↔
      ¬ environment.Gains names values spec := by
  rw [lookup?_of_withEmpty distinct first second member,
    lookup?_of_fromEnvironment distinct first member, Gains]
  cases values.lookup? spec.name with
  | some value => simp
  | none =>
    cases environment.lookup? spec.source with
    | some value => simp
    | none => by_cases named : spec.source ∈ names <;> simp [emptied, named]

end Drawing

/-! ### What commands make of it -/

/-- How the program ends, or which task it goes to the cluster with. -/
inductive Ending where
  | misused (cause : UsageError)
  /-- It stops with an error of a kind. -/
  | failed (kind : String)
  | printed
  | ready (task : Task)

/-- How a command ends. -/
def Command.ending (command : Command) : Ending :=
  match command.prepare with
  | .ok (some (task, _)) => .ready task
  | .ok none => .printed
  | .error cause => .failed cause.name

/-- How a command line ends in an environment. -/
def ending (environment : Environment) (words : List String) : Ending :=
  match readInvocation environment words with
  | .ok invocation => invocation.command.ending
  | .error cause => .misused cause

/-- A command does what another one does where some defaults are kept, fails if that one does, and
shows with its task whether they are kept. -/
structure Follows (kept : Prop) (first second : Command) : Prop where
  whole : kept → second.prepare = first.prepare
  stuck : (∀ task, first.ending ≠ .ready task) → second.ending = first.ending
  shown : ∀ task, first.ending = .ready task → second.ending = .ready task → kept

namespace Follows

variable {kept : Prop} {first second : Command}

theorem of_prepare_eq (same : second.prepare = first.prepare) (all : kept) :
    Follows kept first second where
  whole _ := same
  stuck _ := by rw [Command.ending, Command.ending, same]
  shown _ _ _ := all

/-- A command that follows another one ends like it unless that one is ready with a default. -/
theorem ending_eq_iff (follows : Follows kept first second) :
    second.ending = first.ending ↔ ((∃ task, first.ending = .ready task) → kept) := by
  constructor
  · rintro same ⟨task, ready⟩
    exact follows.shown task ready (same.trans ready)
  · intro keeps
    by_cases ready : ∃ task, first.ending = .ready task
    · rw [Command.ending, Command.ending, follows.whole (keeps ready)]
    · exact follows.stuck fun task is => ready ⟨task, is⟩

end Follows

/-- A text stays as it is, or it was missing and is empty now. -/
theorem or_emptied_cases (text : Option String) (names : List String) (name : String) :
    text.or (emptied names name) = text ∨
      text = none ∧ text.or (emptied names name) = some "" := by
  cases text with
  | some value => exact .inl rfl
  | none =>
    by_cases named : name ∈ names
    · exact .inr ⟨rfl, if_pos named⟩
    · exact .inl (if_neg named)

/-- Who takes the empty text for none sees no difference. -/
theorem overlooked {α : Type} (look : Option String → α) (same : look (some "") = look none)
    (text : Option String) (names : List String) (name : String) :
    look (text.or (emptied names name)) = look text := by
  rcases or_emptied_cases text names name with kept | ⟨missing, empty⟩
  · rw [kept]
  · rw [empty, same, missing]

/-- A default that is not empty is missed. -/
theorem eq_of_getD_eq {before after : Option String} {name default : String}
    (filled : after = before.or (emptied names name)) (missed : default ≠ "")
    (same : after.getD default = before.getD default) : after = before := by
  rcases or_emptied_cases before names name with kept | ⟨missing, empty⟩
  · rw [filled, kept]
  · rw [filled, empty, missing] at same
    exact absurd same.symm missed

section Commands

variable {before after : Values} {specs : List OptionSpec}

/-- What was left open is the empty text afterwards, except for options that refuse it. -/
structure Filled (names : List String) (specs : List OptionSpec) (before after : Values) :
    Prop where
  filled : ∀ spec ∈ specs,
    after.lookup? spec.name = (before.lookup? spec.name).or (emptied names spec.source)
  steady : ∀ spec ∈ specs, spec.source ∈ choosy → after.lookup? spec.name = before.lookup? spec.name

/-- The options with a default have the values that they had. -/
def Kept (specs : List OptionSpec) (before after : Values) : Prop :=
  ∀ spec ∈ specs, spec.source ∈ defaulted → after.lookup? spec.name = before.lookup? spec.name

theorem kept_discoverOptions_iff :
    Kept discoverOptions before after ↔
      after.lookup? "discovery-object-name" = before.lookup? "discovery-object-name" ∧
        after.lookup? "metrics-addr" = before.lookup? "metrics-addr" := by
  simp [Kept, discoverOptions, defaulted]

theorem kept_reconcileOptions_iff :
    Kept reconcileOptions before after ↔
      after.lookup? "daemonset" = before.lookup? "daemonset" := by
  simp [Kept, reconcileOptions, defaulted]

theorem validate_eq_ok_iff {settings : AgentSettings} :
    settings.validate = .ok () ↔
      (∀ entry ∈ settings.required, Text.isBlank entry.2 = false) ∧ settings.interval ≠ 0 := by
  rw [AgentSettings.validate]
  cases found : settings.required.find? fun entry => Text.isBlank entry.2 with
  | some entry =>
    have member := List.mem_of_find?_eq_some found
    have blank := List.find?_some found
    simp only [reduceCtorEq, false_iff, not_and]
    intro none
    rw [none entry member] at blank
    cases blank
  | none =>
    have none := List.find?_eq_none.mp found
    have filled : ∀ entry ∈ settings.required, Text.isBlank entry.2 = false := fun entry member =>
      Bool.eq_false_iff.mpr (none entry member)
    by_cases zero : settings.interval = 0
    · simp [zero]
    · simp only [zero, if_false, ne_eq, not_false_eq_true, and_true, true_iff]
      exact filled

theorem ending_discover (arguments : DiscoverArguments) :
    (Command.discover arguments).ending =
      if arguments.settings.validate = .ok () then
        .ready (.discover arguments.settings arguments.eventPeriod arguments.metricsAddress)
      else .failed "Configuration" := by
  rw [Command.ending, Command.prepare]
  cases checked : arguments.settings.validate with
  | ok _ => rfl
  | error cause =>
    have kind : cause.name = "Configuration" := by
      rw [AgentSettings.validate] at checked
      split at checked
      · cases checked
        rfl
      · split at checked <;> cases checked
        rfl
    show Ending.failed cause.name = _
    rw [kind]
    rfl

theorem ready_discover {arguments : DiscoverArguments} {task : Task}
    (ready : (Command.discover arguments).ending = .ready task) :
    task = .discover arguments.settings arguments.eventPeriod arguments.metricsAddress := by
  rw [ending_discover] at ready
  split at ready
  · exact (Ending.ready.inj ready).symm
  · cases ready

/-- Of the agent's arguments, only the two defaults can be missed. -/
theorem discoverArguments_of_filled (filled : Filled names discoverOptions before after) :
    discoverArguments after =
      { discoverArguments before with
        settings :=
          { (discoverArguments before).settings with
            parentName := (discoverArguments after).settings.parentName }
        metricsAddress := (discoverArguments after).metricsAddress } := by
  obtain ⟨filled, steady⟩ := filled
  simp only [discoverOptions, List.forall_mem_cons] at filled steady
  obtain ⟨node, space, -, uid, -, -, -, -⟩ := filled
  obtain ⟨-, -, -, -, interval, period, -, -⟩ := steady
  have overlook := overlooked (fun text => text.getD "") rfl
  simp only [discoverArguments, numberOf, node, space, uid, interval (by decide),
    period (by decide), overlook]

/-- The agent is not ready with settings that lack more than the old ones did. -/
theorem validate_of_filled (filled : Filled names discoverOptions before after)
    (valid : (discoverArguments after).settings.validate = .ok ()) :
    (discoverArguments before).settings.validate = .ok () := by
  have shape := congrArg DiscoverArguments.settings (discoverArguments_of_filled filled)
  obtain ⟨filled, -⟩ := filled
  simp only [discoverOptions, List.forall_mem_cons] at filled
  obtain ⟨-, -, parent, -⟩ := filled
  rcases or_emptied_cases (before.lookup? "discovery-object-name") names "DISCOVERY_OBJECT_NAME"
    with kept | ⟨-, empty⟩
  · have same : (discoverArguments after).settings.parentName =
        (discoverArguments before).settings.parentName := by
      simp only [discoverArguments, parent, kept]
    rw [same] at shape
    rwa [shape] at valid
  · have missing : (discoverArguments after).settings.parentName = "" := by
      simp only [discoverArguments, parent, empty]
      rfl
    -- The agent checks that the name is not blank.
    have filled := (validate_eq_ok_iff.mp valid).1 ("DISCOVERY_OBJECT_NAME", "")
      (by simp [AgentSettings.required, missing])
    cases filled

theorem follows_discover (filled : Filled names discoverOptions before after) :
    Follows (Kept discoverOptions before after) (.discover (discoverArguments before))
      (.discover (discoverArguments after)) := by
  have shape := discoverArguments_of_filled filled
  constructor
  · intro kept
    obtain ⟨parent, address⟩ := kept_discoverOptions_iff.mp kept
    have parent : (discoverArguments after).settings.parentName =
        (discoverArguments before).settings.parentName := by
      simp only [discoverArguments, parent]
    have address : (discoverArguments after).metricsAddress =
        (discoverArguments before).metricsAddress := by
      simp only [discoverArguments, address]
    rw [shape, parent, address]
  · intro stuck
    rw [ending_discover] at stuck ⊢
    by_cases valid : (discoverArguments before).settings.validate = .ok ()
    · exact absurd (if_pos valid) (stuck _)
    · have still : (discoverArguments after).settings.validate ≠ .ok () := fun fine =>
        valid (validate_of_filled filled fine)
      rw [ending_discover, if_neg valid, if_neg still]
  · intro task ready still
    obtain ⟨filled, -⟩ := filled
    simp only [discoverOptions, List.forall_mem_cons] at filled
    obtain ⟨-, -, parent, -, -, -, address, -⟩ := filled
    obtain ⟨settings, -, same⟩ :=
      Task.discover.inj ((ready_discover still).symm.trans (ready_discover ready))
    exact kept_discoverOptions_iff.mpr
      ⟨eq_of_getD_eq parent (by decide) (congrArg AgentSettings.parentName settings),
        eq_of_getD_eq address (by decide) same⟩

theorem ending_reconcile (namespaceName : Option String) (daemonSet : String) :
    (Command.reconcileDiscovery namespaceName daemonSet).ending =
      match namespaceName.filter fun name => !Text.isBlank name with
      | some name => .ready (.reconcile name daemonSet)
      | none => .failed "Configuration" := by
  rw [Command.ending, Command.prepare]
  cases namespaceName.filter fun name => !Text.isBlank name <;> rfl

theorem follows_reconcile (filled : Filled names reconcileOptions before after) :
    Follows (Kept reconcileOptions before after)
      (.reconcileDiscovery (before.lookup? "namespace")
        ((before.lookup? "daemonset").getD defaultDaemonSet))
      (.reconcileDiscovery (after.lookup? "namespace")
        ((after.lookup? "daemonset").getD defaultDaemonSet)) := by
  obtain ⟨filled, -⟩ := filled
  simp only [reconcileOptions, List.forall_mem_cons] at filled
  obtain ⟨space, daemonSet, -⟩ := filled
  have named : (after.lookup? "namespace").filter (fun name => !Text.isBlank name) =
      (before.lookup? "namespace").filter fun name => !Text.isBlank name := by
    rw [space]
    exact overlooked (Option.filter fun name => !Text.isBlank name) (by decide) ..
  constructor
  · intro kept
    rw [Command.prepare, Command.prepare, named, kept_reconcileOptions_iff.mp kept]
  · intro stuck
    rw [ending_reconcile] at stuck
    rw [ending_reconcile, ending_reconcile, named]
    cases is : (before.lookup? "namespace").filter fun name => !Text.isBlank name with
    | none => rfl
    | some name =>
      rw [is] at stuck
      exact absurd rfl (stuck _)
  · intro task ready still
    rw [ending_reconcile] at ready still
    rw [named] at still
    cases is : (before.lookup? "namespace").filter fun name => !Text.isBlank name with
    | none =>
      rw [is] at ready
      cases ready
    | some name =>
      rw [is] at ready still
      obtain ⟨-, same⟩ := Task.reconcile.inj (Ending.ready.inj (still.trans ready.symm))
      exact kept_reconcileOptions_iff.mpr (eq_of_getD_eq daemonSet (by decide) same)

theorem follows_job (filled : Filled names jobOptions before after) :
    Follows (Kept jobOptions before after) (.filesystemJob (jobArguments before))
      (.filesystemJob (jobArguments after)) := by
  have same : (jobArguments after).plain = (jobArguments before).plain := by
    obtain ⟨filled, steady⟩ := filled
    simp only [jobOptions, List.forall_mem_cons] at filled steady
    obtain ⟨-, filesystem, space, job, new, reused, fusion, target, targetSpace, failed,
      failedSpace, created, -⟩ := filled
    have overlook := overlooked Text.present? rfl
    simp only [JobArguments.plain, jobArguments, steady.1 (by decide), filesystem, space, job, new,
      reused, fusion, target, targetSpace, failed, failedSpace, created, overlook]
  have undefaulted : ∀ spec ∈ jobOptions, spec.source ∉ defaulted := by decide
  refine .of_prepare_eq ?_ fun spec member source => absurd source (undefaulted spec member)
  rw [Command.prepare, Command.prepare, ← JobArguments.toRequest_plain, same,
    JobArguments.toRequest_plain]

/-- **A command follows** what it was before some options got the empty text. -/
theorem follows_build {command : CommandSpec} (member : command ∈ commandSpecs)
    (filled : Filled names command.options before after) :
    Follows (Kept command.options before after) (command.build before) (command.build after) := by
  simp only [commandSpecs, List.mem_cons, List.not_mem_nil, or_false] at member
  rcases member with rfl | rfl | rfl | rfl
  · exact follows_discover filled
  · exact follows_job filled
  · exact follows_reconcile filled
  · exact .of_prepare_eq rfl nofun

end Commands

/-! ### Whole command lines -/

/-- No two options of a command have one name. -/
theorem distinct_options : ∀ command ∈ commandSpecs,
    ((command.options ++ globalOptions).map OptionSpec.name).Nodup := by
  decide

/-- The choosy options are those that refuse the empty text. -/
theorem check_empty_iff : ∀ command ∈ commandSpecs, ∀ spec ∈ command.options ++ globalOptions,
    (spec.check "" = .ok () ↔ spec.source ∉ choosy) := by
  decide

section Lines

variable {words : List String} {line : Line}

theorem distinct_of_readLine (read : readLine words = .ok line) :
    (line.options.map OptionSpec.name).Nodup :=
  distinct_options line.command (command_of_readLine read)

theorem check_of_not_reached (read : readLine words = .ok line)
    (spared : ¬ environment.Reached words names choosy) :
    (∀ spec ∈ line.options, environment.Gains names line.given spec → spec.check "" = .ok ()) ∧
      ∀ before, line.before = .ok before → ∀ spec ∈ globalOptions,
        environment.Gains names before spec → spec.check "" = .ok () := by
  have fits := check_empty_iff line.command (command_of_readLine read)
  constructor
  · intro spec member gains
    refine (fits spec member).mpr fun source => spared ?_
    exact ⟨line, read, spec, source, .inl ⟨member, gains⟩⟩
  · intro before is spec member gains
    refine (fits spec (List.mem_append_right _ member)).mpr fun source => spared ?_
    exact ⟨line, read, spec, source, .inr ⟨member, before, is, gains⟩⟩

/-- The log is written as before. -/
theorem log_of_not_reached (read : readLine words = .ok line)
    (spared : ¬ environment.Reached words names choosy) {earlier before after : Values}
    (is : line.before = .ok earlier)
    (first : fromEnvironment environment earlier globalOptions = .ok before)
    (second : fromEnvironment (environment.withEmpty names) earlier globalOptions = .ok after) :
    LogLevel.ofText ((globalValue? line.given after "log-level").getD "info") =
        LogLevel.ofText ((globalValue? line.given before "log-level").getD "info") ∧
      globalValue? line.given after "log-json" = globalValue? line.given before "log-json" := by
  have distinct : (globalOptions.map OptionSpec.name).Nodup := by decide
  have filled : ∀ spec ∈ globalOptions,
      after.lookup? spec.name = (before.lookup? spec.name).or (emptied names spec.source) :=
    fun spec member => lookup?_of_withEmpty distinct first second member
  have steady : ∀ spec ∈ globalOptions, spec.source ∈ choosy →
      after.lookup? spec.name = before.lookup? spec.name := fun spec member source =>
    (lookup?_eq_iff_not_gains distinct first second member).mpr fun gains =>
      spared ⟨line, read, spec, source, .inr ⟨member, earlier, is, gains⟩⟩
  simp only [globalOptions, List.forall_mem_cons] at filled steady
  obtain ⟨level, -⟩ := filled
  obtain ⟨-, json, -⟩ := steady
  constructor
  · rw [globalValue?, globalValue?, level, ← Option.or_assoc]
    exact overlooked (fun text => LogLevel.ofText (text.getD "info")) (by decide) ..
  · rw [globalValue?, globalValue?, json (by decide)]

/-- What the command of the line is built from, before and after. -/
theorem filled_of_not_reached (read : readLine words = .ok line)
    (spared : ¬ environment.Reached words names choosy) {before after : Values}
    (first : fromEnvironment environment line.given line.options = .ok before)
    (second : fromEnvironment (environment.withEmpty names) line.given line.options = .ok after) :
    Filled names line.command.options before after where
  filled _ member :=
    lookup?_of_withEmpty (distinct_of_readLine read) first second (List.mem_append_left _ member)
  steady spec member source :=
    (lookup?_eq_iff_not_gains (distinct_of_readLine read) first second
      (List.mem_append_left _ member)).mpr fun gains =>
        spared ⟨line, read, spec, source, .inl ⟨List.mem_append_left _ member, gains⟩⟩

theorem kept_iff_not_reached (read : readLine words = .ok line) {before after : Values}
    (first : fromEnvironment environment line.given line.options = .ok before)
    (second : fromEnvironment (environment.withEmpty names) line.given line.options = .ok after) :
    Kept line.command.options before after ↔ ¬ environment.Reached words names defaulted := by
  have common : ∀ spec ∈ globalOptions, spec.source ∉ defaulted := by decide
  have same {spec : OptionSpec} (member : spec ∈ line.options) :=
    lookup?_eq_iff_not_gains (distinct_of_readLine read) first second member
  constructor
  · rintro kept ⟨other, again, spec, source, reached⟩
    cases read.symm.trans again
    rcases reached with ⟨member, gains⟩ | ⟨member, -⟩
    · rcases List.mem_append.mp member with own | shared
      · exact (same member).mp (kept spec own source) gains
      · exact common spec shared source
    · exact common spec member source
  · intro spared spec own source
    have member : spec ∈ line.options := List.mem_append_left _ own
    exact (same member).mpr fun gains =>
      spared ⟨line, read, spec, source, .inl ⟨member, gains⟩⟩

/-- **Where nobody is choosy**, a line is read as before, and its command follows the one before. -/
theorem readInvocation_of_not_reached (spared : ¬ environment.Reached words names choosy) :
    (∃ cause, readInvocation environment words = .error cause ∧
      readInvocation (environment.withEmpty names) words = .error cause) ∨
    ∃ level json first second, readInvocation environment words = .ok ⟨level, json, first⟩ ∧
      readInvocation (environment.withEmpty names) words = .ok ⟨level, json, second⟩ ∧
        Follows (¬ environment.Reached words names defaulted) first second := by
  rw [readInvocation_eq, readInvocation_eq]
  cases read : readLine words with
  | error cause => exact .inl ⟨cause, rfl, rfl⟩
  | ok line =>
    obtain ⟨fits, fitsBefore⟩ := check_of_not_reached read spared
    simp only [bind, Except.bind, Line.complete]
    rcases fromEnvironment_withEmpty (distinct_of_readLine read) fits with
      ⟨cause, first, second⟩ | ⟨before, after, first, second⟩ <;> simp only [first, second]
    · exact .inl ⟨cause, rfl, rfl⟩
    cases is : line.before with
    | error cause => exact .inl ⟨cause, rfl, rfl⟩
    | ok earlier =>
      rcases fromEnvironment_withEmpty (by decide) (fitsBefore earlier is) with
        ⟨cause, shared, sharedAfter⟩ | ⟨_, _, shared, sharedAfter⟩ <;>
          simp only [shared, sharedAfter]
      · exact .inl ⟨cause, rfl, rfl⟩
      · obtain ⟨level, json⟩ := log_of_not_reached read spared is shared sharedAfter
        rw [level, json, ← kept_iff_not_reached read first second]
        exact .inr ⟨_, _, _, _, rfl, rfl, follows_build (command_of_readLine read)
          (filled_of_not_reached read spared first second)⟩

/-- A choosy option that is reached ends the program before it begins. -/
theorem misused_of_reached (reached : environment.Reached words names choosy) :
    ∃ cause, ending (environment.withEmpty names) words = .misused cause := by
  obtain ⟨line, read, spec, source, reached⟩ := reached
  have refuses : ∀ spec ∈ line.options, spec.source ∈ choosy → spec.check "" ≠ .ok () :=
    fun spec member source fits =>
      (check_empty_iff line.command (command_of_readLine read) spec member).mp fits source
  rw [ending, readInvocation_eq, read]
  show ∃ cause, (match line.complete (environment.withEmpty names) with
    | .ok invocation => invocation.command.ending
    | .error cause => .misused cause) = .misused cause
  cases worked : line.complete (environment.withEmpty names) with
  | error cause => exact ⟨cause, rfl⟩
  | ok invocation =>
    obtain ⟨_, own, rest⟩ := bind_eq_ok worked
    obtain ⟨_, is, rest⟩ := bind_eq_ok rest
    obtain ⟨_, shared, -⟩ := bind_eq_ok rest
    exfalso
    rcases reached with ⟨member, gains⟩ | ⟨member, before, earlier, gains⟩
    · obtain ⟨cause, stops⟩ := fromEnvironment_withEmpty_refused (distinct_of_readLine read) member
        gains (refuses spec member source)
      cases own.symm.trans stops
    · cases is.symm.trans earlier
      obtain ⟨cause, stops⟩ := fromEnvironment_withEmpty_refused (by decide) member gains
        (refuses spec (List.mem_append_right _ member) source)
      cases shared.symm.trans stops

/-- Without it, the program ends as before unless it is ready with a default that is missed. -/
theorem ending_withEmpty_iff (spared : ¬ environment.Reached words names choosy) :
    ending (environment.withEmpty names) words = ending environment words ↔
      ((∃ task, ending environment words = .ready task) →
        ¬ environment.Reached words names defaulted) := by
  rcases readInvocation_of_not_reached spared with
    ⟨cause, first, second⟩ | ⟨_, _, _, _, first, second, follows⟩
  · simp [ending, first, second]
  · simpa only [ending, first, second] using follows.ending_eq_iff

/-- **Where no default is missed either**, nothing that the program does is different. -/
theorem start_withEmpty (spared : ¬ environment.Reached words names choosy)
    (kept : ¬ environment.Reached words names defaulted) (time : String) :
    start (environment.withEmpty names) words time = start environment words time := by
  rcases readInvocation_of_not_reached spared with
    ⟨cause, first, second⟩ | ⟨_, _, _, _, first, second, follows⟩
  · rw [start, start, first, second]
  · simp only [start, first, second, Invocation.report, follows.whole kept]

end Lines

/-- **Who notices that variables are set to nothing.** An option that refuses the empty text ends
the program as misused. If no such option is reached, the program ends as before, except that a
program that is ready misses its defaults; and if none of these is reached either, it does the same
in every respect. -/
theorem empty_values_noticed (environment : Environment) (words names : List String) :
    (environment.Reached words names choosy →
        ∃ cause, ending (environment.withEmpty names) words = .misused cause) ∧
      (¬ environment.Reached words names choosy →
        (ending (environment.withEmpty names) words = ending environment words ↔
          ((∃ task, ending environment words = .ready task) →
            ¬ environment.Reached words names defaulted)) ∧
        (¬ environment.Reached words names defaulted → ∀ time,
          start (environment.withEmpty names) words time = start environment words time)) :=
  ⟨misused_of_reached, fun spared => ⟨ending_withEmpty_iff spared, start_withEmpty spared⟩⟩

/-- An empty operation is not the same as none. -/
theorem empty_operation_refused :
    Environment.lookup? [] "OPERATION" = none ∧
      ending [] ["filesystem-job"] = .failed "Configuration" ∧
        ending (Environment.withEmpty [] ["OPERATION"]) ["filesystem-job"] =
          .misused .invalidValue :=
  ⟨rfl, rfl, rfl⟩

/-- A reconciler whose agents' name is set to nothing looks for agents without a name. -/
example :
    ending [("WATCH_NAMESPACE", "storage")] ["reconcile-discovery"] =
        .ready (.reconcile "storage" "devicefinder-discovery") ∧
      ending (Environment.withEmpty [("WATCH_NAMESPACE", "storage")] ["DISCOVERY_DAEMONSET"])
        ["reconcile-discovery"] = .ready (.reconcile "storage" "") :=
  ⟨rfl, rfl⟩

end CommandLine

end NodeStorage
