import Dtdl.CommandLine.Arguments
import Dtdl.CommandLine.Report

/-!
# The command line

A run answers with a text for its output, a text for its errors and an exit code: 0 if
all is well, 1 if faults were reported or the run could not be made, and 2 if the
arguments make no sense.
-/

namespace Dtdl.CommandLine

structure Answer where
  exitCode : Nat
  output : String
  errors : String
  deriving DecidableEq, Repr

namespace Answer

def shown (exitCode : Nat) (text : String) : Answer := ⟨exitCode, text ++ "\n", ""⟩

def failed (message : String) : Answer := ⟨1, "", s!"Error: {message}\n"⟩

end Answer

/-- The line that names the program and its version. -/
def versionLine : String := "dtdl-context 0.3.0"

/-- How the program is called. -/
def usage : String :=
  String.intercalate "\n"
    ["DTDL context resolver: resolve the @context declarations of DTDL model documents", "",
      "Usage: dtdl-context [-v] resolve [PATH] [--format human|json]",
      "                         [--max-dtdl-version N] [--allow-undefined-extensions]",
      "       dtdl-context [-v] terms [--version N] [--extension NAME]"]

def joinLines (lines : List String) : String := String.intercalate "\n" lines

variable {Effect : Type → Type} [Monad Effect]

def perform (files : Files Effect) : Command → Effect Answer
  | .resolve path format options => do
      match ← Project.load files path with
      | .error failure => return .failed failure.message
      | .ok project =>
          let report := Report.ofProject project options
          let text :=
            match format with
            | .human => joinLines report.lines
            | .json => report.toJson.indentedText
          return .shown (if report.faultCount = 0 then 0 else 1) text
  | .terms version extension =>
      return match Listing.history extension with
        | .error failure => .failed failure.message
        | .ok history =>
            match Listing.vocabulary history version with
            | .error failure => .failed failure.message
            | .ok vocabulary => .shown 0 (joinLines (Listing.lines history vocabulary))

def run (files : Files Effect) (words : List String) : Effect Answer :=
  match Request.ofWords words with
  | .run command => perform files command
  | .showVersion => return .shown 0 versionLine
  | .showHelp => return .shown 0 usage
  | .misuse => return ⟨2, "", usage ++ "\n"⟩

end Dtdl.CommandLine
