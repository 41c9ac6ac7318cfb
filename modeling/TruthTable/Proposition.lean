import TruthTable.Assignment
import TruthTable.Variables

/-!
# Propositions

Sentences of propositional logic as trees. A variable is a single character.

A proposition is written with the parentheses that its connectives need and
no others. `~` binds tightest and `|` loosest. `&` and `|` group to the right,
so of their operands only the left one must bind tighter than they do.

A proposition has a value under every valuation of all variables. Under an
assignment it has one if no variable is missing; both operands of `&` and `|`
are evaluated, left first, so a missing variable is always told.
-/

namespace TruthTable

inductive Proposition
  | disj (left right : Proposition)
  | conj (left right : Proposition)
  | neg (operand : Proposition)
  | var (name : Char)
  | constant (value : Bool)
  deriving DecidableEq, Inhabited

namespace Proposition

/-- The variables from left to right, as often as they occur. -/
def occurrences : Proposition → List Char
  | disj l r | conj l r => l.occurrences ++ r.occurrences
  | neg p => p.occurrences
  | var name => [name]
  | constant _ => []

def addNames : Proposition → List Char → List Char
  | disj l r, names | conj l r, names => r.addNames (l.addNames names)
  | neg p, names => p.addNames names
  | var name, names => Variables.appendNew names name
  | constant _, names => names

/-- The variables in the order of their first occurrence. -/
def names (p : Proposition) : List Char :=
  p.addNames []

def height : Proposition → Nat
  | disj l r | conj l r => max l.height r.height + 1
  | neg p => p.height + 1
  | var _ | constant _ => 0

def rename (f : Char → Char) : Proposition → Proposition
  | disj l r => disj (l.rename f) (r.rename f)
  | conj l r => conj (l.rename f) (r.rename f)
  | neg p => neg (p.rename f)
  | var name => var (f name)
  | constant b => constant b

-- ---------------------------------------------------------------------------
-- Rendering
-- ---------------------------------------------------------------------------

def precedence : Proposition → Nat
  | disj .. => 0
  | conj .. => 1
  | neg _ | var _ | constant _ => 2

/-- Whether a proposition needs parentheses where one that binds at least as
tightly as `least` may stand. -/
def isLooser (p : Proposition) (least : Nat) : Bool :=
  decide (p.precedence < least)

def enclose (parens : Bool) (text : List Char) : List Char :=
  if parens then '(' :: text ++ [')'] else text

def render : Proposition → List Char
  | disj l r =>
    enclose (l.isLooser 1) l.render ++ [' ', '|', ' '] ++ enclose (r.isLooser 0) r.render
  | conj l r =>
    enclose (l.isLooser 2) l.render ++ [' ', '&', ' '] ++ enclose (r.isLooser 1) r.render
  | neg p => '~' :: enclose (p.isLooser 2) p.render
  | var name => [name]
  | constant true => ['T']
  | constant false => ['F']

/-- How deep the operands and groups of the rendered text are nested. A pair
of parentheses adds a level, and so does each operator for the operand to its
right. -/
def nesting : Proposition → Nat
  | disj l r =>
    max ((l.isLooser 1).toNat + l.nesting) (1 + (r.isLooser 0).toNat + r.nesting)
  | conj l r =>
    max ((l.isLooser 2).toNat + l.nesting) (1 + (r.isLooser 1).toNat + r.nesting)
  | neg p => 1 + (p.isLooser 2).toNat + p.nesting
  | var _ | constant _ => 0

instance : ToString Proposition where
  toString p := String.ofList p.render

end Proposition

-- ---------------------------------------------------------------------------
-- Evaluation
-- ---------------------------------------------------------------------------

structure Unassigned where
  name : Char
  deriving DecidableEq

def Unassigned.message (e : Unassigned) : String :=
  "variable '" ++ e.name.toString ++ "' is not assigned"

namespace Proposition

/-- The truth-functional meaning. -/
def holds (v : Char → Bool) : Proposition → Bool
  | disj l r => l.holds v || r.holds v
  | conj l r => l.holds v && r.holds v
  | neg p => !p.holds v
  | var name => v name
  | constant b => b

def eval (a : Assignment) : Proposition → Except Unassigned Bool
  | disj l r => do
    let x ← l.eval a
    let y ← r.eval a
    pure (x || y)
  | conj l r => do
    let x ← l.eval a
    let y ← r.eval a
    pure (x && y)
  | neg p => do
    let x ← p.eval a
    pure (!x)
  | var name =>
    match a.get? name with
    | some b => pure b
    | none => throw ⟨name⟩
  | constant b => pure b

end Proposition

end TruthTable
