import TruthTable.CommandLine

/-!
# The program

Reads what the options name, prints the answer and exits with its code.
-/

namespace TruthTable.CommandLine

def usage : String :=
  "usage: truthtable [SENTENCE] [-f PATH] [--max-variables COUNT] [--tokens] [--all]"

def readFile? (path : String) : IO (Option ByteArray) := do
  try
    let contents ← IO.FS.readBinFile path
    pure (some contents)
  catch _ => pure none

/-- Reads the input that the options name, unless it will not be looked at. -/
def environment (o : Options) : IO Environment :=
  match o.limit, o.sentence, o.file with
  | .error _, _, _ | .ok _, some _, _ => pure { stdin := .empty, file := fun _ => none }
  | .ok _, none, some path => do
    let contents ← readFile? path
    pure { stdin := .empty, file := fun _ => contents }
  | .ok _, none, none => do
    let bytes ← (← IO.getStdin).readBinToEnd
    pure { stdin := bytes, file := fun _ => none }

end TruthTable.CommandLine

open TruthTable.CommandLine

def main (args : List String) : IO UInt32 := do
  match Options.ofArgs args with
  | .error .help | .error .version =>
    IO.println usage
    pure 0
  | .error _ =>
    IO.eprintln usage
    pure 1
  | .ok o =>
    let env ← environment o
    let outcome := respond o env
    for line in outcome.stdout do IO.println line
    for line in outcome.stderr do IO.eprintln line
    pure outcome.code
