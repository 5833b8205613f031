/-
This file quotes a text for an error message: double quotes around it, a backslash in front of
quotes and backslashes, short escapes for the common controls, and the code point in hexadecimal
for every character that leaves no mark of its own. Single quotes stand for themselves.
-/

import StepSequencer.Text.GraphemeExtend
import StepSequencer.Text.Unprintable

namespace StepSequencer.Text

/-- The quoted form of one character. -/
def quoteChar (character : Char) : List Char :=
  if character == '"' then ['\\', '"']
  else if character == '\\' then ['\\', '\\']
  else if character == '\t' then ['\\', 't']
  else if character == '\n' then ['\\', 'n']
  else if character == '\r' then ['\\', 'r']
  else if character.toNat == 0 then ['\\', '0']
  else if extendsGrapheme character || isUnprintable character then
    ['\\', 'u', '\x7b'] ++ Nat.toDigits 16 character.toNat ++ ['\x7d']
  else [character]

/-- A text between double quotes, with all that cannot stand for itself escaped. -/
def quoted (text : String) : String :=
  String.ofList ('"' :: text.toList.flatMap quoteChar ++ ['"'])

end StepSequencer.Text
