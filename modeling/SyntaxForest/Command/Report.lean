/-!
# Reports

What a command prints, and why it fails. A failure has a message and, behind it, the chain of its
causes; a report shows them all. What was printed before a failure stays printed.
-/

namespace SyntaxForest.Command

/-- Lines for either stream, without their line ends. -/
structure Output where
  /-- The lines of the results. -/
  results : List String := []
  /-- The lines of the notes beside them. -/
  notes : List String := []
  deriving DecidableEq, Repr, Inhabited

/-- One output after another. -/
def Output.append (a b : Output) : Output := ⟨a.results ++ b.results, a.notes ++ b.notes⟩

instance : Append Output := ⟨Output.append⟩

/-- Lines as text. -/
def textOf (lines : List String) : String := String.join (lines.map (· ++ "\n"))

/-- Why a command fails. -/
structure Failure where
  /-- The message. -/
  message : String
  /-- The causes, each behind the one before it. -/
  causes : List String := []
  deriving DecidableEq, Repr, Inhabited

namespace Failure

/-- A failure behind another message. -/
def under (f : Failure) (message : String) : Failure := ⟨message, f.message :: f.causes⟩

/-- A text whose first line begins with `first` and whose later lines with `later`. -/
def indented (first later text : String) : String :=
    first ++ (later.intercalate (text.splitOn "\n"))

/-- The number of a cause, right-aligned. -/
def ordinal (n : Nat) : String :=
  let digits := toString n
  String.ofList (List.replicate (5 - digits.length) ' ') ++ digits ++ ": "

/-- A cause in a report, on lines of its own. One that is alone has no number. -/
def causeText (isAlone : Bool) (n : Nat) (cause : String) : String :=
  if isAlone then indented "\n    " "\n    " cause
  else indented ("\n" ++ ordinal n) "\n       " cause

/-- The report of a failure. -/
def report (f : Failure) : String :=
  let causes := f.causes.zipIdx.map fun (cause, n) => causeText (f.causes.length = 1) n cause
  let chain := if causes = [] then "" else "\n\nCaused by:" ++ String.join causes
  "Error: " ++ f.message ++ chain ++ "\n"

end Failure

/-- The end of a command. -/
structure Outcome where
  /-- The exit code. -/
  exit : Nat
  /-- The text of the results. -/
  stdout : String
  /-- The text of the notes, with the report of a failure behind them. -/
  stderr : String
  deriving DecidableEq, Repr, Inhabited

/-- The end of a command that has printed this, and has failed or not. -/
def Outcome.of (output : Output) : Option Failure → Outcome
  | none => ⟨0, textOf output.results, textOf output.notes⟩
  | some f => ⟨1, textOf output.results, textOf output.notes ++ f.report⟩

end SyntaxForest.Command
