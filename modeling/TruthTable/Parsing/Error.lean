import TruthTable.Token.Stream

/-!
# Parse errors

Why a text is not a sentence: it cannot be read, it has a character without a
meaning, or a token stands where the grammar has no place for it. The last two
tell where.
-/

namespace TruthTable

inductive ReadFailure
  | notText
  | notFound
  deriving DecidableEq

def ReadFailure.message : ReadFailure → String
  | notText => "stream did not contain valid UTF-8"
  | notFound => "No such file or directory (os error 2)"

/-- What is wrong at a token. -/
inductive Fault
  | unexpectedToken
  | missingClosingParenthesis
  | unexpectedEnd
  | tooDeep
  deriving DecidableEq

def Fault.text : Fault → String
  | unexpectedToken => "unexpected token"
  | missingClosingParenthesis => "missing closing parenthesis"
  | unexpectedEnd => "expected a variable, constant, '~' or '('"
  | tooDeep => "sentence is nested too deeply"

inductive ParseError
  | unreadable (cause : ReadFailure)
  | unrecognized (char : Char) (position : Nat)
  | malformed (fault : Fault) (found : Lexeme)
  deriving DecidableEq

namespace ParseError

def unexpected (l : Lexeme) : ParseError :=
  match l.token with
  | .unknown c => unrecognized c l.position
  | _ => malformed .unexpectedToken l

def position? : ParseError → Option Nat
  | unreadable _ => none
  | unrecognized _ position => some position
  | malformed _ found => some found.position

def fault? : ParseError → Option Fault
  | unreadable _ | unrecognized .. => none
  | malformed fault _ => some fault

def message : ParseError → String
  | unreadable cause => "failed to read sentence: " ++ cause.message
  | unrecognized c position =>
    "unrecognized character " ++ Text.quoted c ++ " at position " ++ toString position
  | malformed fault found =>
    fault.text ++ " at position " ++ toString found.position ++ ": found " ++ found.token.text

def causes : ParseError → List String
  | unreadable cause => [cause.message]
  | unrecognized .. | malformed .. => []

end ParseError

end TruthTable
