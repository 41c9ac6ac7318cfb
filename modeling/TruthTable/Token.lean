import TruthTable.Text.Quoted
import TruthTable.Unicode.Alphabetic

/-!
# Tokens

A sentence is written one character a token. `T` and `F` are the constants,
every other alphabetic character is a variable, and a character with no
meaning is a token too, so that what was found can be told.
-/

namespace TruthTable

inductive Token
  | lparen
  | rparen
  | constant (value : Bool)
  | conj
  | disj
  | neg
  | var (name : Char)
  | endOfInput
  | unknown (char : Char)
  deriving DecidableEq, Inhabited

/-- The token that a character stands for. -/
def Token.ofChar (c : Char) : Token :=
  if c = 'T' then .constant true
  else if c = 'F' then .constant false
  else if Unicode.isAlphabetic c then .var c
  else if c = '&' then .conj
  else if c = '|' then .disj
  else if c = '~' then .neg
  else if c = '(' then .lparen
  else if c = ')' then .rparen
  else .unknown c

def Token.text : Token → String
  | .lparen => "'('"
  | .rparen => "')'"
  | .constant true => "'T'"
  | .constant false => "'F'"
  | .conj => "'&'"
  | .disj => "'|'"
  | .neg => "'~'"
  | .var name => "variable '" ++ name.toString ++ "'"
  | .endOfInput => "end of input"
  | .unknown c => "invalid character " ++ Text.quoted c

def Token.label : Token → String
  | .lparen => "LPar"
  | .rparen => "RPar"
  | .constant true => "True"
  | .constant false => "False"
  | .conj => "And"
  | .disj => "Or"
  | .neg => "Not"
  | .var name => "Variable(" ++ Text.quoted name ++ ")"
  | .endOfInput => "EndOfInput"
  | .unknown c => "Invalid(" ++ Text.quoted c ++ ")"

theorem Token.ofChar_ne_endOfInput (c : Char) : ofChar c ≠ .endOfInput := by
  unfold ofChar
  repeat' split
  all_goals simp

end TruthTable
