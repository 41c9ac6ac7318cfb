import TruthTable.Grammar
import TruthTable.Parsing.Error
import TruthTable.Variables

/-!
# Reading by the rules of the grammar

Each rule reads its phrase from a token stream. It reads one token past what
it takes and gives that token back when the phrase does not continue with it.
At the end of the input a rule finds nothing and leaves the verdict to the
rule that asked. What is one level deeper is read by a `Descent`, which knows
how many levels are left.
-/

namespace TruthTable

/-- A token that a rule gave back. -/
structure PushBack where
  rule : Rule
  token : Token
  /-- The stream that it was given back to. -/
  stream : TokenStream
  deriving DecidableEq

/-- What reading a text keeps track of. -/
structure Session where
  stream : TokenStream
  /-- The variables met so far, in the order of their first occurrence. -/
  names : List Char
  /-- How many levels the phrase at hand lies below the whole text. -/
  depth : Nat
  /-- The tokens given back so far, in order. -/
  returned : Array PushBack

def Session.ofList (text : List Char) : Session :=
  { stream := .ofList text, names := [], depth := 0, returned := #[] }

abbrev ParseM := EStateM ParseError Session

/-- Reads a phrase of a rule one level deeper, after the token that opens it. -/
abbrev Descent := Lexeme → Rule → ParseM (Option Proposition)

namespace ParseM

def next : ParseM Lexeme :=
  modifyGet fun s => (s.stream.next.1, { s with stream := s.stream.next.2 })

def pushBack (rule : Rule) (token : Token) : ParseM Unit :=
  modify fun s =>
    { s with
      stream := s.stream.pushBack token
      returned := s.returned.push ⟨rule, token, s.stream⟩ }

def register (name : Char) : ParseM Unit :=
  modify fun s => { s with names := Variables.appendNew s.names name }

def position : ParseM Nat := do
  let s ← get
  pure s.stream.position

/-- Reads one level deeper and comes back up, also from an error. -/
def deeper {α : Type} (m : ParseM α) : ParseM α := do
  modify fun s => { s with depth := s.depth + 1 }
  try m finally modify fun s => { s with depth := s.depth - 1 }

end ParseM

open ParseM

namespace Rule

def operand (descend : Descent) (operator : Lexeme) (rule : Rule) : ParseM Proposition := do
  match ← descend operator rule with
  | some p => pure p
  | none =>
    let l ← next
    throw (.malformed .unexpectedEnd l)

def readTerm (descend : Descent) : ParseM (Option Proposition) := do
  let l ← next
  match l.token with
  | .var name =>
    register name
    pure (some (.var name))
  | .constant b => pure (some (.constant b))
  | .lparen =>
    let interior ← descend l .sentence
    let closing ← next
    match interior, closing.token with
    | some p, .rparen => pure (some p)
    | _, .endOfInput => throw (.malformed .missingClosingParenthesis closing)
    | _, _ => throw (.unexpected closing)
  | .endOfInput =>
    pushBack .term l.token
    pure none
  | _ => throw (.unexpected l)

def readAtom (descend : Descent) : ParseM (Option Proposition) := do
  let l ← next
  match l.token with
  | .neg =>
    let p ← operand descend l .atom
    pure (some (.neg p))
  | _ =>
    pushBack .atom l.token
    readTerm descend

def readClause (descend : Descent) : ParseM (Option Proposition) := do
  let left ← readAtom descend
  let l ← next
  match left, l.token with
  | some p, .conj =>
    let q ← operand descend l .clause
    pure (some (.conj p q))
  | _, _ =>
    pushBack .clause l.token
    pure left

def readSentence (descend : Descent) : ParseM (Option Proposition) := do
  let left ← readClause descend
  let l ← next
  match l.token with
  | .disj =>
    let q ← operand descend l .sentence
    match left with
    | some p => pure (some (.disj p q))
    | none => throw (.unexpected { l with position := ← position })
  | .rparen | .endOfInput =>
    pushBack .sentence l.token
    pure left
  | _ => throw (.unexpected l)

def read (descend : Descent) : Rule → ParseM (Option Proposition)
  | .sentence => readSentence descend
  | .clause => readClause descend
  | .atom => readAtom descend
  | .term => readTerm descend

def descend : Nat → Descent
  | 0, opener, _ => throw (.malformed .tooDeep opener)
  | levels + 1, _, rule => deeper (rule.read (descend levels))

end Rule

/-- Reads a whole text as one sentence, nested at most `levels` deep. -/
def readWhole (levels : Nat) : ParseM Proposition := do
  let root ← Rule.sentence.read (Rule.descend levels)
  let l ← next
  match root, l.token with
  | some p, .endOfInput => pure p
  | none, .endOfInput => throw (.malformed .unexpectedEnd l)
  | _, _ => throw (.unexpected l)

end TruthTable
