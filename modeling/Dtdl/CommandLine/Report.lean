import Dtdl.Project

/-!
# Reports of a run

What a run over a project has come to, as lines for people to read or as an indented
JSON value, and listings of vocabularies.
-/

namespace Dtdl.CommandLine

open Json (Value)

/-- What a run over a project has come to. -/
structure Report where
  /-- How many documents were read. -/
  documents : Nat
  progress : Batch.Progress

namespace Report

def ofProject (project : Project) (asked : Resolver.Options) : Report :=
  let resolver := Resolver.released (Project.Settings.optionsOf project.settings asked)
  ⟨project.documents.length, Batch.process resolver project.documents Log.empty⟩

def faultCount (report : Report) : Nat := report.progress.log.diagnostics.length

def elementCount (report : Report) : Nat := report.progress.elements.length

/-- A number of things; a single one has a name of its own. -/
def counted (count : Nat) (one many : String) : String :=
  s!"{count} " ++ (if count = 1 then one else many)

def kindWord : Element.Kind → String
  | .extensionContext => "extension"
  | .model => "model"

/-- A clause of a line, left out when it has nothing to name. -/
def clause (label : String) (names : List String) : String :=
  if names.isEmpty then "" else s!" {label}: " ++ String.intercalate ", " names

/-- The line of a resolved element; its types are shown by their short names. -/
def elementLine (resolver : Resolver) (element : Element) : String :=
  let id := element.id.getD "<anonymous>"
  let scope := element.scope
  s!"{element.document}[{element.index}] {kindWord element.kind} {id} (DTDL v{element.language})" ++
    clause "types" (element.types.map resolver.shortName) ++
    clause "affiliates" element.affiliates ++
    (if scope.isEmpty then ""
    else s!" local: {scope.terms.size} terms, {scope.prefixes.size} prefixes")

def faultLine (diagnostic : Diagnostic) : String :=
  let document := diagnostic.document.getD "<input>"
  s!"{document} error[{diagnostic.kind.code}]: {diagnostic.cause}"

def summaryLine (report : Report) : String :=
  counted report.elementCount "element" "elements" ++ " resolved, " ++
    counted report.faultCount "error" "errors" ++ " in " ++
    counted report.documents "document" "documents" ++ "."

def lines (report : Report) : List String :=
  report.progress.elements.map (elementLine report.progress.resolver) ++
    report.progress.log.diagnostics.map faultLine ++ [report.summaryLine]

def toJson (report : Report) : Value :=
  .object
    [("elements", .array (report.progress.elements.map Element.toJson)),
      ("errors", .array (report.progress.log.diagnostics.map Diagnostic.toJson)),
      ("summary", .object
        [("elements", .ofNat report.elementCount), ("errors", .ofNat report.faultCount),
          ("documents", .ofNat report.documents)])]

end Report

/-- Why there is no vocabulary to list. -/
inductive Listing.Failure where
  | unknownExtension (name : String)
  | unknownVersion (history : String) (major : Nat) (available : List Version)
  | noVersions (history : String)
  deriving DecidableEq, Repr

def Listing.Failure.message : Listing.Failure → String
  | unknownExtension name => s!"Unknown extension context: {name}"
  | unknownVersion history major available =>
      s!"{history} has no version {major}; available versions are {Version.listing available}"
  | noVersions history => s!"{history} has no versions"

namespace Listing

/-- The history to list: that of the language, or of an extension, whose name may go
without its lead. -/
def history (extension : Option String) : Except Failure History :=
  match extension with
  | none => .ok Language.history
  | some name =>
      let full := if Text.startsWith name Dtmi.lead then name else Extension.lead ++ name
      match Extension.histories.get? full with
      | some history => .ok history
      | none => .error (.unknownExtension full)

/-- The version of a history with a major number, or its latest version. -/
def vocabulary (history : History) (major : Option Nat) : Except Failure Vocabulary :=
  match major with
  | some major =>
      match history.versions.find? (·.version.major = major) with
      | some vocabulary => .ok vocabulary
      | none => .error (.unknownVersion history.name major history.available)
  | none =>
      match history.latest? with
      | some vocabulary => .ok vocabulary
      | none => .error (.noVersions history.name)

/-- The lines of a vocabulary: its name and version, its terms and its prefixes. -/
def lines (history : History) (vocabulary : Vocabulary) : List String :=
  s!"{history.name};{vocabulary.version.text}" ::
    (vocabulary.terms.entries.map fun entry => s!"  {entry.1} -> {entry.2.text}") ++
    (vocabulary.prefixes.entries.map fun entry => s!"  {entry.1}: -> {entry.2}")

end Listing

end Dtdl.CommandLine
