import TruthTable.Parsing
import TruthTable.Proposition

/-!
# Enumerating assignments

All assignments of the listed variables are tried in the order of their
patterns. There is one assignment at work: each pattern writes its bits over
those of the pattern before, and a copy is kept when the proposition is true.
Before each pattern the enumeration may be cancelled. A variable of the
proposition that is not listed halts it, and so do too many variables. The log
has a record of each solution, between those of the search as a whole.

An enumeration finds the satisfying assignments among all of them, or it is
halted. The verdict tells whether all, some or none of the assignments satisfy
the proposition.
-/

namespace TruthTable

-- ---------------------------------------------------------------------------
-- Outcomes
-- ---------------------------------------------------------------------------

structure Solutions where
  /-- The variables that were enumerated. -/
  names : List Char
  /-- The satisfying assignments in the order of their patterns. -/
  satisfying : Array Assignment
  /-- How many assignments were evaluated. -/
  examined : Nat
  deriving DecidableEq

namespace Solutions

def count (s : Solutions) : Nat :=
  s.satisfying.size

def assignments (s : Solutions) : List Assignment :=
  s.satisfying.toList

def assignment? (s : Solutions) (i : Nat) : Option Assignment :=
  s.satisfying[i]?

def isEmpty (s : Solutions) : Bool :=
  s.satisfying.isEmpty

def isSatisfiable (s : Solutions) : Bool :=
  !s.isEmpty

def isTautology (s : Solutions) : Bool :=
  s.count == s.examined

end Solutions

/-- Why an enumeration did not come to its end. -/
inductive Halt
  | unassigned (missing : Unassigned)
  | tooManyVariables (count limit : Nat)
  | cancelled (step : Pattern)
  deriving DecidableEq

namespace Halt

def message : Halt → String
  | unassigned missing => "evaluation failed: " ++ missing.message
  | tooManyVariables count limit =>
    toString count ++ " variables exceeds the search limit of " ++ toString limit
  | cancelled step => "search cancelled at pattern " ++ toString step.toNat

def causes : Halt → List String
  | unassigned missing => [missing.message]
  | tooManyVariables .. | cancelled _ => []

end Halt

inductive Verdict
  | tautology
  | satisfiable (count examined : Nat)
  | unsatisfiable
  deriving DecidableEq

def Verdict.text : Verdict → String
  | tautology => "tautology"
  | satisfiable count examined =>
    "satisfiable (" ++ toString count ++ " of " ++ toString examined ++ ")"
  | unsatisfiable => "unsatisfiable"

def Solutions.verdict (s : Solutions) : Verdict :=
  if s.isTautology then .tautology
  else if s.isSatisfiable then .satisfiable s.count s.examined
  else .unsatisfiable

-- ---------------------------------------------------------------------------
-- The log
-- ---------------------------------------------------------------------------

inductive Record
  | pushBack (event : PushBack)
  | searching (count : Nat) (names : List Char)
  | satisfies (pattern : Pattern) (assignment : Assignment)
  | finished (found count : Nat)
  deriving DecidableEq

namespace Record

def level : Record → String
  | pushBack _ | satisfies .. => "TRACE"
  | searching .. | finished .. => "DEBUG"

def message : Record → String
  | pushBack event => "push back " ++ event.token.text ++ " in " ++ event.rule.name
  | searching count names =>
    "searching " ++ toString count ++ " assignments over " ++ Text.quotedList names
  | satisfies pattern assignment =>
    "pattern " ++ toString pattern.toNat ++ " satisfies: " ++ toString assignment
  | finished found count => toString found ++ " of " ++ toString count ++ " assignments satisfy"

instance : ToString Record where
  toString r := r.level ++ " " ++ r.message

end Record

-- ---------------------------------------------------------------------------
-- Enumerations
-- ---------------------------------------------------------------------------

/-- The most variables that are enumerated unless another limit is given. -/
def Enumeration.defaultMaxVariables : Nat := 20

structure Enumeration where
  proposition : Proposition
  /-- The listed variables in ascending order, each one once. -/
  names : List Char
  /-- The most variables that are enumerated, as far as patterns allow. -/
  maxVariables : Nat := Enumeration.defaultMaxVariables
  /-- Whether to stop before a pattern, if anything can stop it. -/
  cancel : Option (Pattern → Bool) := none

/-- What an enumeration keeps track of. -/
structure Sweep where
  /-- The patterns at which `cancel` was asked. -/
  asked : Array Pattern := #[]
  /-- The assignment that the patterns are written to. -/
  current : Assignment := .empty
  /-- Copies of the assignments that satisfy the proposition. -/
  found : Array Assignment := #[]
  log : Array Record := #[]

abbrev SweepM := EStateM Halt Sweep

namespace Enumeration

def ofNames (p : Proposition) (names : List Char) : Enumeration :=
  { proposition := p, names := Variables.ascending names }

def ofProposition (p : Proposition) : Enumeration :=
  ofNames p p.names

def ofParsed (p : Parsed) : Enumeration :=
  ofNames p.root p.names

def limit (e : Enumeration) : Nat :=
  min e.maxVariables Pattern.maxVariables

def count (e : Enumeration) : Nat :=
  (Pattern.count e.names.length).toNat

def tell (r : Record) : SweepM Unit :=
  modify fun s => { s with log := s.log.push r }

def keep : SweepM Unit :=
  modify fun s => { s with found := s.found.push s.current }

def checkCancelled (e : Enumeration) (p : Pattern) : SweepM Unit :=
  match e.cancel with
  | none => pure ()
  | some cancel => do
    modify fun s => { s with asked := s.asked.push p }
    if cancel p then throw (.cancelled p)

def isSatisfied (e : Enumeration) : SweepM Bool := do
  let s ← get
  match e.proposition.eval s.current with
  | .ok b => pure b
  | .error missing => throw (.unassigned missing)

def visit (e : Enumeration) (p : Pattern) : SweepM Unit := do
  e.checkCancelled p
  modify fun s => { s with current := p.assign e.names s.current }
  if ← e.isSatisfied then
    let s ← get
    tell (.satisfies p s.current)
    keep

def visitFrom (e : Enumeration) : Nat → Pattern → SweepM Unit
  | 0, _ => pure ()
  | left + 1, p => do
    e.visit p
    e.visitFrom left (p + 1)

/-- Tries the empty assignment, the only one without variables. -/
def tryEmpty (e : Enumeration) : SweepM Solutions := do
  e.checkCancelled 0
  if ← e.isSatisfied then keep
  let s ← get
  pure { names := [], satisfying := s.found, examined := 1 }

def tryAll (e : Enumeration) : SweepM Solutions := do
  tell (.searching e.count e.names)
  e.visitFrom e.count 0
  let s ← get
  tell (.finished s.found.size e.count)
  pure { names := e.names, satisfying := s.found, examined := e.count }

def sweep (e : Enumeration) : SweepM Solutions :=
  if e.limit < e.names.length then throw (.tooManyVariables e.names.length e.limit)
  else if e.names.isEmpty then e.tryEmpty
  else e.tryAll

def run (e : Enumeration) : EStateM.Result Halt Sweep Solutions :=
  e.sweep.run {}

def solutions (e : Enumeration) : Except Halt Solutions :=
  match e.run with
  | .ok s _ => .ok s
  | .error h _ => .error h

/-- The patterns at which the run asked whether it is cancelled, in order. -/
def asked (e : Enumeration) : List Pattern :=
  match e.run with
  | .ok _ s | .error _ s => s.asked.toList

def log (e : Enumeration) : List Record :=
  match e.run with
  | .ok _ s | .error _ s => s.log.toList

end Enumeration

end TruthTable
