/-
**Reading a command line.**

Words are read from left to right. An option is a word that starts with two dashes; its value
follows an equals sign or is the next word, which must not start with a dash then. A flag has no
value. A value counts once the next option or the end of the words is reached: only then is it
checked that the option has a value, has not been given before, and has one that it takes. Two
dashes alone end the options.

An option that is not given takes its value from the environment, where even an empty value counts
as one.
-/

import NodeStorage.Text.Integer

namespace NodeStorage.CommandLine

/-- What stops the reading of a command line. -/
inductive UsageError where
  /-- A value is missing, or is not one of those that an option takes. -/
  | invalidValue
  /-- A value is not a number. -/
  | invalidNumber
  | unknownArgument
  /-- An option is given twice. -/
  | argumentConflict
  /-- A flag is given a value. -/
  | tooManyValues
  | invalidCommand
  | missingCommand
  | displayHelp
  | displayVersion
  deriving DecidableEq, Repr

/-- The name of a reason to stop. -/
def UsageError.name : UsageError → String
  | .invalidValue => "InvalidValue"
  | .invalidNumber => "ValueValidation"
  | .unknownArgument => "UnknownArgument"
  | .argumentConflict => "ArgumentConflict"
  | .tooManyValues => "TooManyValues"
  | .invalidCommand => "InvalidSubcommand"
  | .missingCommand => "MissingSubcommand"
  | .displayHelp => "DisplayHelp"
  | .displayVersion => "DisplayVersion"

/-- The user has asked for what is shown. -/
def UsageError.isRequest (error : UsageError) : Bool :=
  error == .displayHelp || error == .displayVersion

/-! ### Options -/

/-- What an option takes. -/
inductive OptionKind where
  /-- Nothing; from the environment it takes a truth value. -/
  | flag
  | text
  | oneOf (names : List String)
  /-- An unsigned 64-bit number. -/
  | number
  deriving DecidableEq, Repr

/-- An option. -/
structure OptionSpec where
  name : String
  /-- The variable of the environment that it may come from. -/
  source : String
  kind : OptionKind
  /-- What help says about it. -/
  help : String
  deriving DecidableEq, Repr

/-- Checks a value of an option. -/
def OptionSpec.check (spec : OptionSpec) (value : String) : Except UsageError Unit :=
  match spec.kind with
  | .flag => if ["true", "false"].contains value then .ok () else .error .invalidValue
  | .text => .ok ()
  | .oneOf names => if names.contains value then .ok () else .error .invalidValue
  | .number =>
    if (Text.unsigned? Text.maxUnsigned value).isSome then .ok () else .error .invalidNumber

/-- The values of options, by name. -/
abbrev Values := List (String × String)

/-- The value of an option. -/
def Values.lookup? (values : Values) (name : String) : Option String :=
  (values.find? fun entry => entry.1 == name).map Prod.snd

/-! ### Words -/

/-- What the words of a level may be. -/
structure Level where
  options : List OptionSpec
  /-- The names of commands that may follow. -/
  commands : List String
  /-- The version can be asked for. -/
  hasVersion : Bool

namespace Level

/-- The option of a name. -/
def option? (level : Level) (name : String) : Option OptionSpec :=
  level.options.find? fun spec => spec.name == name

/-- The error for a word that is neither an option nor a value. -/
def strayWord (level : Level) : UsageError :=
  if level.commands.isEmpty then .unknownArgument else .invalidCommand

end Level

/-- How far the reading has come. -/
structure Reading where
  values : Values
  /-- The option that was given last, with its value once that has been read. -/
  pending : Option (OptionSpec × Option String)

namespace Reading

/-- Nothing has been read. -/
def start : Reading := ⟨[], none⟩

/-- Takes the value of an option. -/
def take (reading : Reading) (spec : OptionSpec) (value : String) : Except UsageError Reading := do
  if (reading.values.lookup? spec.name).isSome then
    throw .argumentConflict
  spec.check value
  pure { reading with values := reading.values ++ [(spec.name, value)] }

/-- Takes the value of the option that was given last. -/
def settle (reading : Reading) : Except UsageError Reading :=
  match reading.pending with
  | none => .ok reading
  | some (_, none) => .error .invalidValue
  | some (spec, some value) => { reading with pending := none }.take spec value

/-- The option that waits for its value. -/
def waiting? (reading : Reading) : Option OptionSpec :=
  match reading.pending with
  | some (spec, none) => some spec
  | _ => none

/-- Stops the reading to show something, after the option that was given last. -/
def stopToShow (reading : Reading) (what : UsageError) : Except UsageError Reading := do
  let _ ← reading.settle
  throw what

/-- Reads a word that starts with two dashes. -/
def readLong (level : Level) (reading : Reading) (name : String) (attached : Option String) :
    Except UsageError Reading := do
  match level.option? name, attached with
  | some spec, some value =>
    if spec.kind = .flag then throw .tooManyValues
    let settled ← reading.settle
    settled.take spec value
  | some spec, none =>
    let settled ← reading.settle
    if spec.kind = .flag then settled.take spec "true"
    else pure { settled with pending := some (spec, none) }
  | none, _ =>
    if name = "help" then
      if attached.isSome then throw .tooManyValues else reading.stopToShow .displayHelp
    else if level.hasVersion && name = "version" then
      if attached.isSome then throw .tooManyValues else reading.stopToShow .displayVersion
    else throw .unknownArgument

/-- Reads a word that starts with one dash; `c` follows it. -/
def readShort (level : Level) (reading : Reading) (c : Char) : Except UsageError Reading :=
  if c = 'h' then reading.stopToShow .displayHelp
  else if level.hasVersion && c = 'V' then reading.stopToShow .displayVersion
  else .error .unknownArgument

end Reading

/-- The characters before an equals sign, and those after it if there is one. -/
def splitAtEquals : List Char → List Char × Option (List Char)
  | [] => ([], none)
  | c :: rest =>
    if c = '=' then ([], some rest)
    else
      let (name, value) := splitAtEquals rest
      (c :: name, value)

/-- What has been read, and the command with the words after it. -/
structure LevelResult where
  reading : Reading
  command : Option (String × List String)

/-- Reads the words of a level up to a command. -/
def readWords (level : Level) (reading : Reading) : List String → Except UsageError LevelResult
  | [] => .ok ⟨reading, none⟩
  | word :: rest => do
    if reading.waiting?.isNone && level.commands.contains word then
      pure ⟨reading, some (word, rest)⟩
    else
      match word.toList with
      | ['-', '-'] =>
        if rest.isEmpty then pure ⟨reading, none⟩
        else if level.commands.any fun name => rest.head? == some name then throw .unknownArgument
        else throw level.strayWord
      | '-' :: '-' :: chars =>
        let (name, value) := splitAtEquals chars
        let reading ← reading.readLong level (String.ofList name) (value.map String.ofList)
        readWords level reading rest
      | '-' :: c :: _ =>
        let reading ← reading.readShort level c
        readWords level reading rest
      | _ =>
        match reading.waiting? with
        | some spec => readWords level { reading with pending := some (spec, some word) } rest
        | none => throw level.strayWord

/-! ### The environment -/

/-- The variables of the environment. -/
abbrev Environment := List (String × String)

/-- The value of a variable. -/
def Environment.lookup? (environment : Environment) (name : String) : Option String :=
  (environment.find? fun entry => entry.1 == name).map Prod.snd

/-- The values with those that the environment has for options without one. -/
def fromEnvironment (environment : Environment) (values : Values) :
    List OptionSpec → Except UsageError Values
  | [] => .ok values
  | spec :: rest =>
    match values.lookup? spec.name, environment.lookup? spec.source with
    | none, some value => do
      spec.check value
      fromEnvironment environment (values ++ [(spec.name, value)]) rest
    | _, _ => fromEnvironment environment values rest

/-- The values of options that words without a command give, with those from the environment. -/
def readOptions (options : List OptionSpec) (environment : Environment) (words : List String) :
    Except UsageError Values := do
  let result ← readWords ⟨options, [], false⟩ .start words
  let settled ← result.reading.settle
  fromEnvironment environment settled.values options

end NodeStorage.CommandLine
