import ChipEight.Text.Printable

/-!
Quoted text. The delimiter and the backslash take a backslash, four controls have a letter of
their own, and any other character that is not plain is written as its code point in braces.
-/

namespace ChipEight.Text

/-- The code point of `c` in lower-case hexadecimal, as `\u\x7b…\x7d`. -/
def codeEscape (c : Char) : List Char :=
  ['\\', 'u', '\x7b'] ++ Nat.toDigits 16 c.toNat ++ ['\x7d']

/-- How `c` is written between delimiters `delimiter`. -/
def escaped (delimiter c : Char) : List Char :=
  if c = '\x00' then ['\\', '0']
  else if c = '\t' then ['\\', 't']
  else if c = '\r' then ['\\', 'r']
  else if c = '\n' then ['\\', 'n']
  else if c = '\\' ∨ c = delimiter then ['\\', c]
  else if isPlain c then [c]
  else codeEscape c

/-- `text` between two copies of `delimiter`. -/
def quotedBy (delimiter : Char) (text : List Char) : String :=
  String.ofList (delimiter :: text.flatMap (escaped delimiter) ++ [delimiter])

/-- A string in double quotes. -/
def quoted (text : String) : String := quotedBy '\x22' text.toList

/-- A character in single quotes. -/
def quotedChar (c : Char) : String := quotedBy '\x27' [c]

end ChipEight.Text
