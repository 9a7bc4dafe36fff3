import Dtdl.Glob.Search

/-!
# The documents that a project selects

Patterns are taken in order, and the files of one pattern in the order of their paths.
A file that an earlier pattern has selected is not selected again.
-/

namespace Dtdl.Project.Sources

/-- The pattern for the documents of a project that does not name any. -/
def everyDocument : String := "**/*.json"

/-- Paths without those that equal a known one or an earlier one of the list. -/
def fresh (known : List Path) : List Path → List Path
  | [] => []
  | path :: rest =>
      if known.any path.same then fresh known rest else path :: fresh (path :: known) rest

/-- The files of patterns in the order of their selection. -/
def arrangeFrom (known : List Path) : List (List Path) → List Path
  | [] => []
  | found :: rest =>
      let selected := fresh known found
      selected.mergeSort Path.le ++ arrangeFrom (selected ++ known) rest

def arrange (found : List (List Path)) : List Path := arrangeFrom [] found

/-- A pattern whose paths cannot be had, and why. -/
structure Fault where
  pattern : String
  failure : Glob.Failure
  deriving DecidableEq, Repr

def Fault.message (fault : Fault) : String :=
  match fault.failure with
  | .pattern problem => s!"Invalid glob pattern '{fault.pattern}': {problem.message}"
  | .unread directory => s!"Glob error: {directory.message}"

variable {Effect : Type → Type} [Monad Effect]

def onlyFiles (files : Files Effect) : List Path → Effect (List Path)
  | [] => return []
  | path :: rest => do
      let isFile ← files.hasFile path
      let others ← onlyFiles files rest
      return if isFile then path :: others else others

/-- The files that a pattern matches in a directory. -/
def matching (files : Files Effect) (directory : Path) (pattern : String) :
    Effect (Except Fault (List Path)) := do
  let text := (directory.join pattern).text.map fun c => if c = '\\' then '/' else c
  match ← Glob.paths files text with
  | .error failure => return .error ⟨pattern, failure⟩
  | .ok paths => return .ok (← onlyFiles files paths)

/-- The files that each of some patterns matches; the first pattern that fails is given
instead. -/
def matchingAll (files : Files Effect) (directory : Path) :
    List String → Effect (Except Fault (List (List Path)))
  | [] => return .ok []
  | pattern :: rest => do
      match ← matching files directory pattern with
      | .error fault => return .error fault
      | .ok found =>
          match ← matchingAll files directory rest with
          | .error fault => return .error fault
          | .ok others => return .ok (found :: others)

/-- The files that patterns select in a directory. -/
def select (files : Files Effect) (directory : Path) (patterns : List String) :
    Effect (Except Fault (List Path)) := do
  return (← matchingAll files directory patterns).map arrange

end Dtdl.Project.Sources
