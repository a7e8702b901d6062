import PluginMerge.Text.Basic

/-!
# Blank characters

The white space of Unicode together with the four information separators U+001C to U+001F.
Zero-width characters (U+200B, U+2060, U+FEFF) and the Mongolian vowel separator are not blank.
-/

namespace PluginMerge.Text

/-- The ranges of the blank characters, in increasing order. -/
def blankRanges : List (Nat × Nat) :=
  [(0x09, 0x0D), (0x1C, 0x20), (0x85, 0x85), (0xA0, 0xA0), (0x1680, 0x1680), (0x2000, 0x200A),
    (0x2028, 0x2029), (0x202F, 0x202F), (0x205F, 0x205F), (0x3000, 0x3000)]

/-- Whether a character is blank. -/
def isBlank (c : Char) : Bool := inRanges blankRanges c

/-- The text without the blanks at its two ends. -/
def strip (s : Text) : Text := trim isBlank s

end PluginMerge.Text
