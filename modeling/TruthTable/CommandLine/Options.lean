import TruthTable.Solving

/-!
# Options and their answers

Checks a sentence and tells whether it is a tautology, satisfiable or
unsatisfiable. `--tokens` lists its tokens instead, whether they form a
sentence or not, and `--all` lists the satisfying assignments.

How arguments are understood is left open here: `runWith` is given a function
that makes options of them.
-/

namespace TruthTable.CommandLine

/-- What the arguments say: the values and the switches that were given. -/
structure Options where
  sentence : Option String
  file : Option String
  maxVariables : Option String
  tokens : Bool
  all : Bool
  deriving DecidableEq

structure Environment where
  stdin : ByteArray
  file : String → Option ByteArray

-- ---------------------------------------------------------------------------
-- Outcomes
-- ---------------------------------------------------------------------------

/-- What a run prints, line by line, and the code it exits with. -/
structure Outcome where
  code : UInt32
  stdout : List String := []
  stderr : List String := []
  deriving DecidableEq

def Outcome.failure (message : String) (printed : List String) : Outcome :=
  { code := 255, stdout := printed, stderr := [message] }

def exitCode : Verdict → UInt32
  | .tautology | .satisfiable .. => 0
  | .unsatisfiable => 1

-- ---------------------------------------------------------------------------
-- Limits
-- ---------------------------------------------------------------------------

def readDigits (digits : List Char) : Option Nat :=
  if digits.isEmpty || !digits.all Char.isDigit then none
  else
    let n := digits.foldl (fun n c => 10 * n + (c.toNat - '0'.toNat)) 0
    if n < UInt64.size then some n else none

/-- A count in digits, a plus sign before them allowed. -/
def readCount (text : String) : Option Nat :=
  match text.toList with
  | '+' :: digits => readDigits digits
  | digits => readDigits digits

def Options.limit (o : Options) : Except String Nat :=
  match o.maxVariables with
  | none => .ok Enumeration.defaultMaxVariables
  | some text =>
    match readCount text with
    | some n => .ok n
    | none => .error text

-- ---------------------------------------------------------------------------
-- Sources
-- ---------------------------------------------------------------------------

/-- The text itself, which only `--tokens` needs. -/
def Options.text (o : Options) (env : Environment) : Except ReadFailure String :=
  match o.sentence, o.file with
  | some text, _ => .ok text
  | none, some path => decodeFile (env.file path)
  | none, none => decode env.stdin

def Options.parsed (o : Options) (env : Environment) : Except ParseError Parsed :=
  match o.sentence, o.file with
  | some text, _ => parse text
  | none, some path => parseFile (env.file path)
  | none, none => parseBytes env.stdin

-- ---------------------------------------------------------------------------
-- Answers
-- ---------------------------------------------------------------------------

def listTokens : Except ReadFailure String → Outcome
  | .error e => .failure e.message []
  | .ok text =>
    { code := 0, stdout := (TokenStream.ofList text.toList).drain.1.map (·.token.label) }

def check (maxVariables : Nat) (all : Bool) : Except ParseError Parsed → Outcome
  | .error e => .failure (SolveError.parse e).message []
  | .ok p =>
    let rendered := toString p.root
    match (p.enumeration maxVariables).solutions with
    | .error h => .failure (SolveError.search h).message [rendered]
    | .ok s =>
      let listed := if all then s.assignments.map toString else []
      { code := exitCode s.verdict, stdout := rendered :: listed ++ [s.verdict.text] }

/-- The answer to the options, given what was read and what that was parsed to. -/
def Options.answer (o : Options) (text : Except ReadFailure String)
    (parsed : Except ParseError Parsed) : Outcome :=
  match o.limit with
  | .error count => .failure ("invalid --max-variables: " ++ count) []
  | .ok maxVariables => if o.tokens then listTokens text else check maxVariables o.all parsed

def respond (o : Options) (env : Environment) : Outcome :=
  o.answer (o.text env) (o.parsed env)

/-- Responds to the options that `accept` makes of the arguments. -/
def runWith {ε : Type} (accept : List String → Except ε Options) (args : List String)
    (env : Environment) : Except ε Outcome :=
  (respond · env) <$> accept args

end TruthTable.CommandLine
