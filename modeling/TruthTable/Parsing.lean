import TruthTable.Parsing.Rules

/-!
# Parsing

A text parses to the proposition that it writes down, together with its
variables. The nesting of a text is limited. A text can come from bytes or from
a file. Bytes are read as UTF-8, all of them or none.
-/

namespace TruthTable

structure Parsed where
  root : Proposition
  /-- The variables in the order of their first occurrence. -/
  names : List Char
  deriving DecidableEq

def Parsed.ascendingNames (p : Parsed) : List Char :=
  Variables.ascending p.names

/-- How deep a text may be nested unless another limit is given. -/
def defaultLevels : Nat := 256

def readText (levels : Nat) (text : List Char) : EStateM.Result ParseError Session Proposition :=
  (readWhole levels).run (.ofList text)

def parseWithin (levels : Nat) (text : List Char) : Except ParseError Parsed :=
  match readText levels text with
  | .ok root s => .ok ⟨root, s.names⟩
  | .error e _ => .error e

/-- The tokens that were given back while the text was read. -/
def pushBacks (levels : Nat) (text : List Char) : List PushBack :=
  match readText levels text with
  | .ok _ s | .error _ s => s.returned.toList

def parse (text : String) : Except ParseError Parsed :=
  parseWithin defaultLevels text.toList

def decode (bytes : ByteArray) : Except ReadFailure String :=
  match String.fromUTF8? bytes with
  | some text => .ok text
  | none => .error .notText

/-- Reads a file that holds `contents`, or that is not there. -/
def decodeFile : Option ByteArray → Except ReadFailure String
  | some contents => decode contents
  | none => .error .notFound

def parseRead : Except ReadFailure String → Except ParseError Parsed
  | .ok text => parse text
  | .error e => .error (.unreadable e)

def parseBytes (bytes : ByteArray) : Except ParseError Parsed :=
  parseRead (decode bytes)

def parseFile (contents : Option ByteArray) : Except ParseError Parsed :=
  parseRead (decodeFile contents)

end TruthTable
