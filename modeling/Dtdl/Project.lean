import Dtdl.Batch
import Dtdl.Exchange.Records
import Dtdl.Project.Settings
import Dtdl.Project.Sources

/-!
# Projects

A project is a single document, or a directory whose documents are selected by the
settings in it.  Loading reads the settings and every selected document, in the order
of their selection, and stops at the first thing that cannot be read.
-/

namespace Dtdl

inductive Project.Failure where
  | missing (path : Path)
  | unsuitable (path : Path)
  | empty (path : Path)
  | settingsUnread (fault : Files.ReadFault)
  | settings (failure : Yaml.Failure)
  | pattern (fault : Project.Sources.Fault)
  | documentUnread (path : Path) (fault : Files.ReadFault)
  | document (path : Path) (failure : Json.Failure)
  deriving DecidableEq, Repr

def Project.Failure.message : Project.Failure → String
  | missing path => s!"Path does not exist: {path.text}"
  | unsuitable path => s!"Path is neither a file nor a directory: {path.text}"
  | empty path => s!"No DTDL documents (.json) found at: {path.text}"
  | settingsUnread fault => s!"Failed to read config: {fault.message}"
  | settings failure => s!"Invalid YAML config: {failure.message}"
  | pattern fault => fault.message
  | documentUnread path fault => s!"Failed to read {path.text}: {fault.message}"
  | document path failure => s!"Invalid JSON in {path.text}: {failure.message}"

structure Project where
  settings : Option Project.Settings
  documents : List Document

namespace Project

variable {Effect : Type → Type} [Monad Effect]

/-- Read the settings in a directory, if there are any. -/
def loadSettings (files : Files Effect) (directory : Path) :
    Effect (Except Failure (Option Settings)) := do
  let path := directory.join Settings.fileName
  if ← files.hasAny path then
    match ← files.text path with
    | .error fault => return .error (.settingsUnread fault)
    | .ok text =>
        match Settings.parse text with
        | .error failure => return .error (.settings failure)
        | .ok settings => return .ok (some settings)
  else return .ok none

def loadDocument (files : Files Effect) (path : Path) : Effect (Except Failure Document) := do
  match ← files.text path with
  | .error fault => return .error (.documentUnread path fault)
  | .ok text =>
      match Json.parse text with
      | .error failure => return .error (.document path failure)
      | .ok content =>
          return .ok ⟨path.text.map fun c => if c = '\\' then '/' else c, content⟩

/-- Read documents in order, up to the first that cannot be read. -/
def loadDocuments (files : Files Effect) : List Path → Effect (Except Failure (List Document))
  | [] => return .ok []
  | path :: rest => do
      match ← loadDocument files path with
      | .error failure => return .error failure
      | .ok document =>
          match ← loadDocuments files rest with
          | .error failure => return .error failure
          | .ok documents => return .ok (document :: documents)

/-- The patterns for the documents of a directory. -/
def patterns (settings : Option Settings) : List String :=
  match settings.bind (·.sources) with
  | none | some [] => [Sources.everyDocument]
  | some patterns => patterns

def loadDirectory (files : Files Effect) (directory : Path) :
    Effect (Except Failure Project) := do
  match ← loadSettings files directory with
  | .error failure => return .error failure
  | .ok settings =>
      match ← Sources.select files directory (patterns settings) with
      | .error fault => return .error (.pattern fault)
      | .ok paths =>
          match ← loadDocuments files paths with
          | .error failure => return .error failure
          | .ok [] => return .error (.empty directory)
          | .ok documents => return .ok ⟨settings, documents⟩

def load (files : Files Effect) (path : Path) : Effect (Except Failure Project) := do
  match ← files.kind? path with
  | none => return .error (.missing path)
  | some .other => return .error (.unsuitable path)
  | some .directory => loadDirectory files path
  | some .file =>
      match ← loadDocument files path with
      | .error failure => return .error failure
      | .ok document => return .ok ⟨none, [document]⟩

end Project

end Dtdl
