import TruthTable.CommandLine.Options

/-!
# The command line

    truthtable [SENTENCE] [-f PATH | --file PATH] [--max-variables COUNT] [--tokens] [--all]

The program's own way of understanding its arguments, for `runWith`. They are
read from left to right. Those after `--` are operands, and so is a lone `-`. An
option takes its value from the same argument or from the next one. What the
arguments say is then checked as a whole: nothing may be said twice, no value
may be missing, and a sentence comes from one place.
-/

namespace TruthTable.CommandLine

inductive UsageError
  | unknownOption (arg : String)
  | extraOperand (arg : String)
  | missingValue (option : String)
  | repeated (option : String)
  | sentenceAndFile
  | help
  | version
  deriving DecidableEq

/-- What one argument says, alone or with the next one. An option that found
no value has none. -/
inductive Setting
  | sentence (text : String)
  | file (path? : Option String)
  | maxVariables (count? : Option String)
  | tokens
  | all
  deriving DecidableEq

inductive Argument
  | operand
  | valued (setting : Option String → Setting) (value? : Option String)
  | switch (setting : Setting)
  | refused (e : UsageError)

/-- The value behind `=`. More than one `=` is read as one. -/
def valueBehind (cs : List Char) : String :=
  String.ofList (cs.dropWhile (· = '='))

def attachedValue : List Char → Option String
  | [] => none
  | cs => some (valueBehind cs)

def longOption (arg : String) (cs : List Char) : Argument :=
  let value := cs.dropWhile (· ≠ '=')
  match String.ofList (cs.takeWhile (· ≠ '=')) with
  | "file" => .valued .file (attachedValue value)
  | "max-variables" => .valued .maxVariables (attachedValue value)
  | "tokens" => .switch .tokens
  | "all" => .switch .all
  | "help" => .refused .help
  | "version" => .refused .version
  | _ => .refused (.unknownOption arg)

def argument (arg : String) : Argument :=
  match arg.toList with
  | '-' :: '-' :: cs => longOption arg (cs.dropWhile (· = '-'))
  | ['-', 'f'] => .valued .file none
  | '-' :: 'f' :: cs => .valued .file (some (valueBehind cs))
  | '-' :: 'h' :: _ => .refused .help
  | '-' :: 'V' :: _ => .refused .version
  | '-' :: _ :: _ => .refused (.unknownOption arg)
  | _ => .operand

def isValue (arg : String) : Bool :=
  match arg.toList with
  | '-' :: _ :: _ => false
  | _ => true

def operands (seen : Bool) : List String → Except UsageError (List Setting)
  | [] => .ok []
  | arg :: rest =>
    if seen then .error (.extraOperand arg)
    else (.sentence arg :: ·) <$> operands true rest

/-- What the arguments say, in order; `seen` if there was an operand before. -/
def settings (seen : Bool) : List String → Except UsageError (List Setting)
  | [] => .ok []
  | arg :: rest =>
    if arg = "--" then operands seen rest
    else
      match argument arg with
      | .operand =>
        if seen then .error (.extraOperand arg)
        else (.sentence arg :: ·) <$> settings true rest
      | .switch setting => (setting :: ·) <$> settings seen rest
      | .refused e => .error e
      | .valued setting (some value) => (setting (some value) :: ·) <$> settings seen rest
      | .valued setting none =>
        match rest with
        | [] => .ok [setting none]
        | value :: later =>
          if isValue value then (setting (some value) :: ·) <$> settings seen later
          else (setting none :: ·) <$> settings seen (value :: later)

def single (option : String) : List (Option String) → Except UsageError (Option String)
  | [] => .ok none
  | [none] => .error (.missingValue option)
  | [some value] => .ok (some value)
  | _ => .error (.repeated option)

def switched (option : String) (setting : Setting) (said : List Setting) :
    Except UsageError Bool :=
  if said.count setting ≤ 1 then .ok (said.contains setting)
  else .error (.repeated option)

def Setting.sentence? : Setting → Option String
  | sentence text => some text
  | _ => none

def Setting.file? : Setting → Option (Option String)
  | file path? => some path?
  | _ => none

def Setting.maxVariables? : Setting → Option (Option String)
  | maxVariables count? => some count?
  | _ => none

def Options.ofSettings (said : List Setting) : Except UsageError Options := do
  let file ← single "--file" (said.filterMap (·.file?))
  let maxVariables ← single "--max-variables" (said.filterMap (·.maxVariables?))
  let tokens ← switched "--tokens" .tokens said
  let all ← switched "--all" .all said
  let sentence := said.findSome? (·.sentence?)
  if sentence.isSome && file.isSome then throw .sentenceAndFile
  pure { sentence, file, maxVariables, tokens, all }

def Options.ofArgs (args : List String) : Except UsageError Options :=
  settings false args >>= ofSettings

def run : List String → Environment → Except UsageError Outcome :=
  runWith Options.ofArgs

end TruthTable.CommandLine
