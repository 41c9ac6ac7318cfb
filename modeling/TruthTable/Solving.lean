import TruthTable.Enumeration

/-!
# Solving sentences

A text is parsed, and all assignments of its variables are tried.
-/

namespace TruthTable

inductive SolveError
  | parse (cause : ParseError)
  | search (cause : Halt)
  deriving DecidableEq

namespace SolveError

def message : SolveError → String
  | parse cause => "parse error: " ++ cause.message
  | search cause => "search error: " ++ cause.message

def causes : SolveError → List String
  | parse cause => cause.message :: cause.causes
  | search cause => cause.message :: cause.causes

end SolveError

def Parsed.enumeration (p : Parsed) (maxVariables : Nat) : Enumeration :=
  { Enumeration.ofParsed p with maxVariables }

def solve (text : String) (maxVariables : Nat) : Except SolveError Solutions :=
  match parse text with
  | .error e => .error (.parse e)
  | .ok p => (p.enumeration maxVariables).solutions.mapError .search

def solveLog (text : String) (maxVariables : Nat) : List Record :=
  (pushBacks defaultLevels text.toList).map .pushBack ++
    match parse text with
    | .error _ => []
    | .ok p => (p.enumeration maxVariables).log

end TruthTable
