/-
**Quoted text for diagnostics.**

A diagnostic shows a text in double quotes in a way that leaves no doubt about its characters: the
quote, the backslash and the usual control characters have short escapes, and whatever cannot be
seen, or would melt into the character before it, is written by its number. An apostrophe stays.
-/

import NodeStorage.Text.Category

namespace NodeStorage.Text

/-- How one character is shown between double quotes. -/
def escapeForDiagnostic (c : Char) : List Char :=
  if c = Char.ofNat 0 then ['\\', '0']
  else if c = '\t' then ['\\', 't']
  else if c = '\r' then ['\\', 'r']
  else if c = '\n' then ['\\', 'n']
  else if c = '"' then ['\\', '"']
  else if c = '\\' then ['\\', '\\']
  else if extendsGrapheme c || !isPrintable c then
    ['\\', 'u', '{'] ++ hexadecimal c.toNat ++ ['}']
  else [c]

/-- The text in double quotes, as diagnostics show it. -/
def quoted (text : String) : String :=
  String.ofList ('"' :: text.toList.flatMap escapeForDiagnostic ++ ['"'])

end NodeStorage.Text
