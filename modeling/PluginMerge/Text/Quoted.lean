import PluginMerge.Text.Hidden

/-!
# Quoted texts

How a text is shown inside a message: between two quote marks, on one line, with every character
that has no visible form written as an escape.

* The mark is the apostrophe, unless the text holds an apostrophe and no double quote.
* The mark and the backslash are written after a backslash; tab, line feed and carriage return
  have short escapes; the other hidden characters are written by their code point.
-/

namespace PluginMerge.Text

/-- The mark around a quoted text. -/
def quoteMark (s : Text) : Char :=
  if s.contains '\x27' && !s.contains '\x22' then '\x22' else '\x27'

/-- The code point of a character in at least `width` hexadecimal digits. -/
def hexDigits (width : Nat) (c : Char) : Text := zeroPadded width (Nat.toDigits 16 c.toNat)

/-- The escape of a hidden character: two, four or eight digits, the fewest that suffice. -/
def codeEscape (c : Char) : Text :=
  if c.toNat ≤ 0xFF then '\\' :: 'x' :: hexDigits 2 c
  else if c.toNat ≤ 0xFFFF then '\\' :: 'u' :: hexDigits 4 c
  else '\\' :: 'U' :: hexDigits 8 c

/-- One character of a quoted text. -/
def escaped (mark c : Char) : Text :=
  if c = mark ∨ c = '\\' then ['\\', c]
  else if c = '\t' then ['\\', 't']
  else if c = '\n' then ['\\', 'n']
  else if c = '\r' then ['\\', 'r']
  else if isHidden c then codeEscape c
  else [c]

/-- The text between quote marks, escaped. -/
def quoted (s : Text) : Text :=
  let mark := quoteMark s
  mark :: (s.flatMap (escaped mark) ++ [mark])

end PluginMerge.Text
