/-
**Reading patterns.**

A pattern is written as a text in which most characters stand for themselves. The reader goes
through the text once. It keeps the groups that are still open, each with the alternatives and the
parts that it has so far, and the modes in force: ignoring case, the meaning of line ends and of the
dot, blanks that do not count. A mode set inside a group ends with it.

There are no references back to what a group matched, and no looking ahead or behind, so every
pattern can be searched in a single pass.
-/

import NodeStorage.Pattern.Basic

namespace NodeStorage.Pattern

/-- Why a text is not a pattern. -/
inductive SyntaxError where
  | unclosedGroup
  | unopenedGroup
  | lookAround
  | groupName
  | mode
  | nothingToRepeat
  | repetitionCount
  | unclosedSet
  | setMember
  | setRange
  | escape
  | backReference
  | property
  | notText
  | tooDeep
  | tooLarge
  deriving DecidableEq, Repr

/-- The wording of a syntax error. -/
def SyntaxError.message : SyntaxError → String
  | .unclosedGroup => "unclosed group"
  | .unopenedGroup => "unopened group"
  | .lookAround => "look-around is not supported"
  | .groupName => "invalid group name"
  | .mode => "invalid mode"
  | .nothingToRepeat => "repetition without something to repeat"
  | .repetitionCount => "invalid repetition count"
  | .unclosedSet => "unclosed character set"
  | .setMember => "invalid member of a character set"
  | .setRange => "invalid range of characters"
  | .escape => "invalid escape sequence"
  | .backReference => "references back are not supported"
  | .property => "unknown character property"
  | .notText => "pattern can match invalid text"
  | .tooDeep => "nested too deeply"
  | .tooLarge => "pattern is too large"

/-- The modes that change what the characters of a pattern mean. -/
structure Modes where
  ignoreCase : Bool := false
  /-- `^` and `$` stand for the ends of lines. -/
  multiLine : Bool := false
  /-- The dot stands for line ends too. -/
  dotAll : Bool := false
  swapGreed : Bool := false
  /-- The named sets reach beyond ASCII. -/
  unicode : Bool := true
  /-- A carriage return ends a line too. -/
  carriageReturn : Bool := false
  /-- Blanks and comments do not count. -/
  verbose : Bool := false
  deriving DecidableEq, Repr

/-- A part of a pattern that has been read, or why it cannot be. Readers of the start of a text
return the characters after it as well. -/
abbrev Attempt := Except SyntaxError

/-- The characters after a comment's first line end. -/
def afterComment : List Char → List Char
  | [] => []
  | c :: rest => if c = '\n' then rest else afterComment rest

theorem afterComment_length (chars : List Char) : (afterComment chars).length ≤ chars.length := by
  induction chars with
  | nil => simp [afterComment]
  | cons c rest ih =>
    simp only [afterComment]
    split
    · simp
    · simp; omega

/-- The characters from the next one that counts. -/
def skip (modes : Modes) (chars : List Char) : List Char :=
  match chars with
  | [] => []
  | c :: rest =>
    if !modes.verbose then c :: rest
    else if Text.isWhiteSpace c then skip modes rest
    else if c = '#' then skip modes (afterComment rest)
    else c :: rest
termination_by chars.length
decreasing_by
  all_goals
    have := afterComment_length rest
    simp_all
    try omega

/-- Reads characters up to `last`; `none` when it is missing. Blanks that do not count are passed
over before each character. -/
def takeUntil (modes : Modes) (last : Char) : (fuel : Nat) → List Char →
    Option (List Char × List Char)
  | 0, _ => none
  | fuel + 1, chars =>
    match skip modes chars with
    | [] => none
    | c :: rest =>
      if c = last then some ([], rest)
      else (takeUntil modes last fuel rest).map fun (taken, left) => (c :: taken, left)

/-! ### Single members -/

/-- The value of hexadecimal digits, when it is a character. -/
def hexadecimalChar (digits : List Char) : Attempt Char :=
  if digits.isEmpty then .error .escape
  else
    match digits.mapM Text.hexDigit? with
    | none => .error .escape
    | some values =>
      let code := values.foldl (fun value digit => value * 16 + digit) 0
      if code.isValidChar then .ok (Char.ofNat code) else .error .escape

/-- Reads `count` hexadecimal digits. -/
def takeHexadecimal (modes : Modes) : (count : Nat) → List Char →
    Option (List Char × List Char)
  | 0, chars => some ([], chars)
  | count + 1, chars =>
    match skip modes chars with
    | [] => none
    | c :: rest => (takeHexadecimal modes count rest).map fun (taken, left) => (c :: taken, left)

/-- Reads a character by its number, in braces or in a fixed count of digits. -/
def readNumbered (modes : Modes) (count : Nat) (chars : List Char) : Attempt (Char × List Char) :=
  let read := match skip modes chars with
    | '{' :: rest => takeUntil modes '}' (rest.length + 1) rest
    | others => takeHexadecimal modes count others
  match read with
  | none => .error .escape
  | some (digits, rest) => (hexadecimalChar digits).map fun c => (c, rest)

/-- What a single member of a pattern is. -/
inductive Member where
  /-- A character; `raw` when it is written as a byte. -/
  | char (c : Char) (raw : Bool)
  | set (set : CharSet)
  | condition (question : Condition)
  deriving Repr

/-- The named sets of a letter after a backslash. -/
def shorthand (modes : Modes) (letter : Char) : CharSet :=
  let set :=
    if letter = 'd' ∨ letter = 'D' then if modes.unicode then .digit else .asciiDigit
    else if letter = 's' ∨ letter = 'S' then if modes.unicode then .space else .asciiSpace
    else if modes.unicode then .word else .asciiWord
  if letter = 'D' ∨ letter = 'S' ∨ letter = 'W' then .complement set else set

/-- The set as the modes see it: with all spellings, when case is ignored. -/
def withCase (modes : Modes) (set : CharSet) : CharSet :=
  if !modes.ignoreCase then set
  else if modes.unicode then .anyCase set
  else .anyAsciiCase set

/-- The set that a name stands for, or an equation such as `gc=name`, `gc:name` or `gc!=name`. -/
def propertySet (modes : Modes) (negated : Bool) (name : List Char) : Attempt CharSet :=
  let key := name.takeWhile fun c => c != '=' && c != ':'
  let value := (name.drop key.length).tail
  let differs := key.getLast? == some '!' && name[key.length]? == some '='
  let set :=
    if key.length = name.length then CharSet.ofName? (CharSet.propertyName name)
    else
      CharSet.ofValue? (CharSet.propertyName (if differs then key.dropLast else key))
        (CharSet.propertyName value)
  match set with
  | some set =>
    .ok (if negated != differs then .complement (withCase modes set) else withCase modes set)
  | none => .error .property

/-- Reads a set of characters by their property. -/
def readProperty (modes : Modes) (negated : Bool) (chars : List Char) :
    Attempt (CharSet × List Char) :=
  if !modes.unicode then .error .property
  else
    match skip modes chars with
    | [] => .error .escape
    | '{' :: rest =>
      match takeUntil modes '}' (rest.length + 1) rest with
      | none => .error .escape
      | some (name, left) => (propertySet modes negated name).map fun set => (set, left)
    | c :: rest =>
      if c = '\\' then .error .property
      else (propertySet modes negated [c]).map fun set => (set, rest)

/-- A letter or the hyphen, as in the names of word conditions. -/
def isConditionChar (c : Char) : Bool :=
  c.isAlpha || c == '-'

/-- Reads what may stand in braces after a word boundary; without such a name the brace is left
alone. -/
def readBoundary (modes : Modes) (chars : List Char) : Attempt (Condition × List Char) :=
  match chars with
  | '{' :: rest =>
    match skip modes rest with
    | [] => .error .escape
    | c :: others =>
      if !isConditionChar c then .ok (.wordBoundary, chars)
      else
        match takeUntil modes '}' (others.length + 2) (c :: others) with
        | none => .error .escape
        | some (name, left) =>
          if name = "start".toList then .ok (.wordStart, left)
          else if name = "end".toList then .ok (.wordEnd, left)
          else if name = "start-half".toList then .ok (.wordStartHalf, left)
          else if name = "end-half".toList then .ok (.wordEndHalf, left)
          else .error .escape
  | _ => .ok (.wordBoundary, chars)

/-- A backslash in front of the character makes it stand for itself. -/
def isEscapable (c : Char) : Bool :=
  c.toNat < 0x80 && !c.isAlphanum && c != '<' && c != '>'

/-- Reads what follows a backslash. -/
def readEscape (modes : Modes) (chars : List Char) : Attempt (Member × List Char) :=
  match chars with
  | [] => .error .escape
  | c :: rest =>
    let plain (c : Char) : Attempt (Member × List Char) := .ok (.char c false, rest)
    if c.isDigit then .error .backReference
    else if c = 'x' then
      (readNumbered modes 2 rest).map fun (value, left) =>
        (.char value ((skip modes rest).head? != some '{'), left)
    else if c = 'u' then
      (readNumbered modes 4 rest).map fun (value, left) => (.char value false, left)
    else if c = 'U' then
      (readNumbered modes 8 rest).map fun (value, left) => (.char value false, left)
    else if c = 'p' ∨ c = 'P' then
      (readProperty modes (c == 'P') rest).map fun (set, left) => (.set set, left)
    else if ['d', 'D', 's', 'S', 'w', 'W'].contains c then .ok (.set (shorthand modes c), rest)
    else if isEscapable c then plain c
    else if c = 'a' then plain (Char.ofNat 0x07)
    else if c = 'f' then plain (Char.ofNat 0x0C)
    else if c = 't' then plain '\t'
    else if c = 'n' then plain '\n'
    else if c = 'r' then plain '\r'
    else if c = 'v' then plain (Char.ofNat 0x0B)
    else if c = 'A' then .ok (.condition .textStart, rest)
    else if c = 'z' then .ok (.condition .textEnd, rest)
    else if c = 'b' then
      (readBoundary modes rest).map fun (question, left) => (.condition question, left)
    else if c = 'B' then .ok (.condition .noWordBoundary, rest)
    else if c = '<' then .ok (.condition .wordStart, rest)
    else if c = '>' then .ok (.condition .wordEnd, rest)
    else .error .escape

/-! ### Sets in brackets -/

/-- What two sets in brackets may be joined by. -/
inductive SetOperation where
  | intersection | difference | symmetricDifference
  deriving DecidableEq, Repr

/-- A set in brackets that is still open. -/
structure OpenSet where
  negated : Bool
  /-- The sets to the left of the last operation, with the operation. -/
  left : Option (CharSet × SetOperation)
  /-- The members since then. -/
  members : CharSet
  /-- How deep the members are nested. -/
  depth : Nat

/-- The members with one more. -/
def OpenSet.add (openSet : OpenSet) (set : CharSet) : OpenSet :=
  { openSet with members := .union openSet.members set }

/-- Everything up to here as one set. -/
def OpenSet.combined (modes : Modes) (openSet : OpenSet) : CharSet :=
  match openSet.left with
  | none => openSet.members
  | some (left, operation) =>
    let left := withCase modes left
    let right := withCase modes openSet.members
    match operation with
    | .intersection => .intersection left right
    | .difference => .difference left right
    | .symmetricDifference => .union (.difference left right) (.difference right left)

/-- The set when its bracket closes. -/
def OpenSet.close (modes : Modes) (openSet : OpenSet) : CharSet :=
  let set := withCase modes (openSet.combined modes)
  if openSet.negated then .complement set else set

/-- The set before the next operation. -/
def OpenSet.apply (modes : Modes) (openSet : OpenSet) (operation : SetOperation) : OpenSet :=
  { openSet with
    left := some (openSet.combined modes, operation)
    members := .empty
    depth := openSet.depth + 1 }

/-- Hyphens at the start of a set stand for themselves. -/
def leadingHyphens (modes : Modes) : (fuel : Nat) → CharSet → List Char → CharSet × List Char
  | 0, members, chars => (members, chars)
  | fuel + 1, members, chars =>
    match chars with
    | '-' :: rest =>
      leadingHyphens modes fuel (.union members (.single '-')) (skip modes rest)
    | others => (members, others)

/-- Opens a set behind its bracket. -/
def openSet (modes : Modes) (chars : List Char) : OpenSet × List Char :=
  let chars := skip modes chars
  let (negated, chars) := match chars with
    | '^' :: rest => (true, skip modes rest)
    | others => (false, others)
  let (members, chars) := leadingHyphens modes chars.length .empty chars
  match members, chars with
  | .empty, ']' :: rest => (⟨negated, none, .single ']', 0⟩, skip modes rest)
  | _, others => (⟨negated, none, members, 0⟩, others)

/-- Reads a named ASCII set such as `[:alpha:]`, behind its first bracket. -/
def readNamedSet? (modes : Modes) (chars : List Char) : Option (CharSet × List Char) :=
  match chars with
  | ':' :: rest =>
    let (negated, rest) := match rest with
      | '^' :: others => (true, others)
      | others => (false, others)
    match rest.dropWhile (· != ':') with
    | ':' :: ']' :: left =>
      (CharSet.ofAsciiName? (String.ofList (rest.takeWhile (· != ':')))).map fun set =>
        let cased := withCase modes set
        (if negated then .complement cased else cased, left)
    | _ => none
  | _ => none

/-- Reads one member of a set. -/
def readSetMember (modes : Modes) (chars : List Char) : Attempt (Member × List Char) :=
  match chars with
  | '\\' :: rest => readEscape modes rest
  | c :: rest => .ok (.char c false, rest)
  | [] => .error .unclosedSet

/-- The character of a member that bounds a range. -/
def Member.bound : Member → Attempt Char
  | .char c _ => .ok c
  | _ => .error .setRange

/-- The set of a member. -/
def Member.asSet (modes : Modes) : Member → Attempt CharSet
  | .char c _ =>
    if !modes.unicode && c.toNat ≥ 0x80 then .error .notText else .ok (.single c)
  | .set found => .ok found
  | .condition _ => .error .setMember

/-- Reads one member of a set, or a range of them. -/
def readSetRange (modes : Modes) (chars : List Char) : Attempt (CharSet × List Char) := do
  let (first, rest) ← readSetMember modes chars
  match skip modes rest with
  | [] => .error .unclosedSet
  | '-' :: after =>
    let following := (skip modes after).head?
    if following = some ']' ∨ following = some '-' then
      let set ← first.asSet modes
      pure (set, '-' :: after)
    else
      let (second, left) ← readSetMember modes (skip modes after)
      let low ← first.bound
      let high ← second.bound
      if high < low then .error .setRange
      else if !modes.unicode && high.toNat ≥ 0x80 then .error .notText
      else pure (.range low.toNat high.toNat, left)
  | others =>
    let set ← first.asSet modes
    pure (set, others)

/-- Reads the rest of a set in brackets, with the sets around it that are still open. The result is
the set and how deep it is nested. -/
def readSet (modes : Modes) : (fuel : Nat) → OpenSet → List OpenSet → List Char →
    Attempt (CharSet × Nat × List Char)
  | 0, _, _, _ => .error .unclosedSet
  | fuel + 1, current, outer, chars =>
    match skip modes chars with
    | [] => .error .unclosedSet
    | '[' :: rest =>
      match readNamedSet? modes rest with
      | some (set, left) => readSet modes fuel (current.add set) outer left
      | none =>
        let (inner, left) := openSet modes rest
        readSet modes fuel inner (current :: outer) left
    | ']' :: rest =>
      let set := current.close modes
      let depth := current.depth + 1
      match outer with
      | [] => .ok (set, depth, rest)
      | around :: others =>
        readSet modes fuel { around.add set with depth := max around.depth depth } others rest
    | '&' :: '&' :: rest => readSet modes fuel (current.apply modes .intersection) outer rest
    | '-' :: '-' :: rest => readSet modes fuel (current.apply modes .difference) outer rest
    | '~' :: '~' :: rest =>
      readSet modes fuel (current.apply modes .symmetricDifference) outer rest
    | others =>
      match readSetRange modes others with
      | .error cause => .error cause
      | .ok (set, left) => readSet modes fuel (current.add set) outer left

/-- Without the wide sets a set must stay inside ASCII, or it would take single bytes of longer
characters. -/
def checkedSet (modes : Modes) (set : CharSet) : Attempt CharSet :=
  if !modes.unicode && (List.range 0x80).any fun offset => set.holds (0x80 + offset) then
    .error .notText
  else .ok set

/-! ### Parts of a pattern -/

/-- A part of a pattern: a change of modes, or a pattern with the depth of its nesting. -/
inductive Part where
  | modes
  | pattern (pattern : Pattern) (depth : Nat)
  deriving Repr

namespace Part

/-- The pattern of a part. -/
def toPattern : Part → Pattern
  | .modes => .empty
  | .pattern inner _ => inner

/-- The depth of a part. -/
def depth : Part → Nat
  | .modes => 0
  | .pattern _ levels => levels

end Part

/-- The greatest of some depths. -/
def deepest (parts : List Part) : Nat :=
  parts.foldl (fun depth part => max depth part.depth) 0

/-- Parts one after another, as one part. -/
def joined (parts : List Part) : Part :=
  match parts with
  | [only] => .pattern only.toPattern only.depth
  | [] => .pattern .empty 0
  | several => .pattern (inOrder (several.map Part.toPattern)) (deepest several + 1)

/-- Alternatives, as one part. -/
def alternatives (parts : List Part) : Part :=
  match parts with
  | [only] => only
  | several => .pattern (anyOf (several.map Part.toPattern)) (deepest several + 1)

/-- A group that is still open: the modes outside it, and the alternatives and parts around it, the
last one first. -/
structure OpenGroup where
  modes : Modes
  finished : List Part
  parts : List Part

/-- Where the reader of a pattern stands. -/
structure Position where
  modes : Modes
  /-- The alternatives before this one, the last one first. -/
  finished : List Part
  /-- The parts of this alternative, the last one first. -/
  parts : List Part
  /-- The groups around it, the innermost first. -/
  around : List OpenGroup
  /-- The names of groups so far. -/
  names : List (List Char)

namespace Position

/-- The position with one more part. -/
def add (position : Position) (part : Part) : Position :=
  { position with parts := part :: position.parts }

/-- The alternatives up to here, as one part. -/
def close (position : Position) : Part :=
  alternatives ((joined position.parts.reverse :: position.finished).reverse)

end Position

/-- The pattern of a single character. -/
def charPattern (modes : Modes) (c : Char) : Pattern :=
  .one (withCase modes (.single c))

/-- The pattern of a single member. -/
def Member.toPattern (modes : Modes) : Member → Attempt Pattern
  | .char c raw =>
    if raw && !modes.unicode && c.toNat ≥ 0x80 then .error .notText
    else .ok (charPattern modes c)
  | .set found => (checkedSet modes found).map .one
  | .condition question =>
    .ok (.condition question (if modes.unicode then .word else .asciiWord))

/-- The pattern of the dot. -/
def dotPattern (modes : Modes) : Attempt Pattern :=
  if !modes.unicode then .error .notText
  else if modes.dotAll then .ok (.one (.complement .empty))
  else if modes.carriageReturn then
    .ok (.one (.complement (.union (.single '\n') (.single '\r'))))
  else .ok (.one (.complement (.single '\n')))

/-- The pattern of `^`, or of `$`. -/
def anchorPattern (modes : Modes) (atStart : Bool) : Pattern :=
  let question : Condition :=
    if !modes.multiLine then if atStart then .textStart else .textEnd
    else if modes.carriageReturn then if atStart then .anyLineStart else .anyLineEnd
    else if atStart then .lineStart
    else .lineEnd
  .condition question .word

/-! ### Groups -/

/-- A character that a group's name may hold, or start with. -/
def isNameChar (first : Bool) (c : Char) : Bool :=
  let alphabetic := Text.isLetter c || Text.category c == .letterNumber
  c == '_' || alphabetic ||
    (!first && (c == '.' || c == '[' || c == ']' || Text.isDecimalNumber c ||
      Text.category c == .otherNumber))

/-- Reads a group's name behind its opening bracket. -/
def readName (chars : List Char) : Attempt (List Char × List Char) :=
  let name := chars.takeWhile (· != '>')
  match chars.dropWhile (· != '>'), name with
  | '>' :: rest, first :: others =>
    if isNameChar true first && others.all (isNameChar false) then .ok (name, rest)
    else .error .groupName
  | _, _ => .error .groupName

/-- A mode, by its letter, switched on or off. -/
def setMode (modes : Modes) (value : Bool) (letter : Char) : Option Modes :=
  if letter = 'i' then some { modes with ignoreCase := value }
  else if letter = 'm' then some { modes with multiLine := value }
  else if letter = 's' then some { modes with dotAll := value }
  else if letter = 'U' then some { modes with swapGreed := value }
  else if letter = 'u' then some { modes with unicode := value }
  else if letter = 'R' then some { modes with carriageReturn := value }
  else if letter = 'x' then some { modes with verbose := value }
  else none

/-- Reads mode letters up to a colon or a closing parenthesis: the modes, and whether a parenthesis
closed them. `seen` are the letters so far, the last one first. -/
def readModes (modes : Modes) (value : Bool) (seen : List Char) :
    List Char → Attempt (Modes × Bool × List Char)
  | [] => .error .mode
  | c :: rest =>
    if c = ':' ∨ c = ')' then
      if seen.head? = some '-' then .error .mode
      else if c = ')' ∧ seen.isEmpty then .error .nothingToRepeat
      else .ok (modes, c == ')', rest)
    else if seen.contains c then .error .mode
    else if c = '-' then readModes modes false (c :: seen) rest
    else
      match setMode modes value c with
      | none => .error .mode
      | some changed => readModes changed value (c :: seen) rest

/-- Opens a group. -/
def openGroup (position : Position) (modes : Modes) : Position :=
  { position with
    modes := modes
    finished := []
    parts := []
    around := ⟨position.modes, position.finished, position.parts⟩ :: position.around }

/-- Opens a group with a name, which must be new. -/
def openNamed (position : Position) (chars : List Char) : Attempt (Position × List Char) := do
  let (name, rest) ← readName chars
  if position.names.contains name then .error .groupName
  else pure ({ openGroup position position.modes with names := name :: position.names }, rest)

/-- Reads what follows an opening parenthesis. -/
def readGroup (position : Position) (chars : List Char) : Attempt (Position × List Char) :=
  match skip position.modes chars with
  | '?' :: '=' :: _ | '?' :: '!' :: _ => .error .lookAround
  | '?' :: '<' :: '=' :: _ | '?' :: '<' :: '!' :: _ => .error .lookAround
  | '?' :: 'P' :: '<' :: rest => openNamed position rest
  | '?' :: '<' :: rest => openNamed position rest
  | '?' :: rest => do
    let (modes, closed, left) ← readModes position.modes true [] rest
    if closed then pure ({ position.add .modes with modes := modes }, left)
    else pure (openGroup position modes, left)
  | others => .ok (openGroup position position.modes, others)

/-- Closes the innermost group. -/
def closeGroup (position : Position) : Attempt Position :=
  match position.around with
  | [] => .error .unopenedGroup
  | group :: outer =>
    let inner := position.close
    .ok { position with
      modes := group.modes
      finished := group.finished
      parts := .pattern inner.toPattern (inner.depth + 1) :: group.parts
      around := outer }

/-! ### Repetitions -/

/-- The largest repetition count. -/
def largestCount : Nat := 4294967295

/-- Reads a decimal number with blanks around it. -/
def readCount (chars : List Char) : Attempt (Nat × List Char) :=
  let chars := chars.dropWhile Text.isWhiteSpace
  let digits := chars.takeWhile Char.isDigit
  match Text.digits? digits with
  | none => .error .repetitionCount
  | some value =>
    if value > largestCount then .error .repetitionCount
    else .ok (value, (chars.dropWhile Char.isDigit).dropWhile Text.isWhiteSpace)

/-- Reads the counts of a repetition behind its brace. -/
def readCounts (modes : Modes) (chars : List Char) : Attempt (Nat × Option Nat × List Char) := do
  let (least, rest) ← readCount (skip modes chars)
  let ((low, high), rest) ← match skip modes rest with
    | ',' :: after =>
      match skip modes after with
      | '}' :: left => pure ((least, none), '}' :: left)
      | others => do
        let (most, left) ← readCount others
        pure ((least, some most), skip modes left)
    | others => pure ((least, some least), others)
  match rest with
  | '}' :: left =>
    if high.any (· < low) then .error .repetitionCount else pure (low, high, left)
  | _ => .error .repetitionCount

/-- Repeats the last part. -/
def repeatLast (position : Position) (least : Nat) (most : Option Nat) :
    Attempt Position :=
  match position.parts with
  | .pattern pattern depth :: rest =>
    .ok { position with parts := .pattern (.repeated least most pattern) (depth + 1) :: rest }
  | _ => .error .nothingToRepeat

/-- A question mark behind a repetition asks for the shortest way, which changes nothing about
whether there is one. -/
def afterGreed (modes : Modes) (chars : List Char) : List Char :=
  match skip modes chars with
  | '?' :: rest => rest
  | others => others

/-! ### The whole pattern -/

/-- Adds a member. -/
def addMember (position : Position) (member : Attempt (Member × List Char)) :
    Attempt (Position × List Char) := do
  let (found, rest) ← member
  let pattern ← found.toPattern position.modes
  pure (position.add (.pattern pattern 0), rest)

/-- Reads one part of a pattern, given its first character. -/
def readPart (position : Position) (c : Char) (rest : List Char) :
    Attempt (Position × List Char) :=
  let modes := position.modes
  let counted (least : Nat) (most : Option Nat) : Attempt (Position × List Char) :=
    (repeatLast position least most).map fun after => (after, afterGreed modes rest)
  if c = '(' then readGroup position rest
  else if c = ')' then (closeGroup position).map fun after => (after, rest)
  else if c = '|' then
    .ok ({ position with
      finished := joined position.parts.reverse :: position.finished
      parts := [] }, rest)
  else if c = '[' then do
    let (inner, left) := openSet modes rest
    let (set, depth, left) ← readSet modes (left.length + 1) inner [] left
    let set ← checkedSet modes set
    pure (position.add (.pattern (.one set) depth), left)
  else if c = '?' then counted 0 (some 1)
  else if c = '*' then counted 0 none
  else if c = '+' then counted 1 none
  else if c = '{' then do
    let _ ← repeatLast position 0 none
    let (least, most, left) ← readCounts modes rest
    let after ← repeatLast position least most
    pure (after, afterGreed modes left)
  else if c = '\\' then addMember position (readEscape modes rest)
  else if c = '.' then
    (dotPattern modes).map fun pattern => (position.add (.pattern pattern 0), rest)
  else if c = '^' then .ok (position.add (.pattern (anchorPattern modes true) 0), rest)
  else if c = '$' then .ok (position.add (.pattern (anchorPattern modes false) 0), rest)
  else .ok (position.add (.pattern (charPattern modes c) 0), rest)

/-- Reads a pattern part by part. -/
def readParts : (fuel : Nat) → Position → List Char → Attempt Position
  | 0, position, _ => .ok position
  | fuel + 1, position, chars =>
    match skip position.modes chars with
    | [] => .ok position
    | c :: rest => do
      let (after, left) ← readPart position c rest
      readParts fuel after left

/-- How deep a pattern may be nested. -/
def depthLimit : Nat := 250

/-- How many steps a pattern may have when it is written out. -/
def sizeLimit : Nat := 327680

/-- Reads a pattern. -/
def parse (text : String) : Attempt Pattern := do
  let chars := text.toList
  let position ← readParts (chars.length + 1) ⟨{}, [], [], [], []⟩ chars
  if !position.around.isEmpty then .error .unclosedGroup
  else
    let whole := position.close
    if whole.depth > depthLimit then .error .tooDeep
    else if whole.toPattern.size > sizeLimit then .error .tooLarge
    else pure whole.toPattern

end NodeStorage.Pattern
