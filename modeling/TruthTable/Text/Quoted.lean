import TruthTable.Unicode.Ranges
import TruthTable.Unicode.GraphemeExtend
import TruthTable.Unicode.Printable

/-!
# Quoted characters

How a character is shown between apostrophes. The apostrophe, the backslash
and the common controls are written with a backslash; any other character
that would not be visible there is written as its code point in hexadecimal.
-/

namespace TruthTable.Text

/-- The halfwidth voiced and semi-voiced sound marks. They extend the grapheme
before them, but they have a place and a shape of their own. -/
def isHalfwidthSoundMark (c : Char) : Bool :=
  c == '\uFF9E' || c == '\uFF9F'

/-- Whether a character cannot be shown without the one before it. -/
def leansOnOther (c : Char) : Bool :=
  Unicode.extendsGrapheme c && !isHalfwidthSoundMark c

/-- Whether a character shows as itself when it stands alone. -/
def isVisible (c : Char) : Bool :=
  Unicode.isPrintable c && !Unicode.isDefaultIgnorable c && !leansOnOther c

def codePoint (c : Char) : String :=
  "\\u\x7b" ++ String.ofList (Nat.toDigits 16 c.toNat) ++ "\x7d"

def escape (c : Char) : String :=
  if c = '\x00' then "\\0"
  else if c = '\t' then "\\t"
  else if c = '\r' then "\\r"
  else if c = '\n' then "\\n"
  else if c = '\x27' then "\\'"
  else if c = '\x5C' then "\\\\"
  else if isVisible c then c.toString
  else codePoint c

def quoted (c : Char) : String :=
  "'" ++ escape c ++ "'"

def quotedList (cs : List Char) : String :=
  "[" ++ ", ".intercalate (cs.map quoted) ++ "]"

example : quoted 'p' = "'p'" := by decide +kernel
example : quoted '"' = "'\"'" := by decide +kernel
example : quoted '\x27' = "'\\''" := by decide +kernel
example : quoted '\u0301' = "'\\u\x7b301\x7d'" := by decide +kernel
example : quoted '\u1160' = "'\\u\x7b1160\x7d'" := by decide +kernel
example : quoted '\uFF9E' = "'\uFF9E'" := by decide +kernel
example : quotedList ['a', 'b'] = "['a', 'b']" := by decide +kernel

end TruthTable.Text
