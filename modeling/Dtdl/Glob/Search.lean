import Dtdl.Files
import Dtdl.Glob

/-!
# Searching for paths

A pattern is followed component by component.  A component that stands for one text is
looked up; any other is compared with the names in a directory.  The components for any
number of directories are tried in every directory below.

A directory that cannot be read is found in the place of what is in it.  The first one that
is found takes the place of all paths.
-/

namespace Dtdl.Glob

variable {Effect : Type → Type} [Monad Effect]

/-- The longest path that a file system looks up, in bytes.  A search goes no deeper,
since every directory on the way adds two bytes to a path at least. -/
def maxPathLength : Nat := 4096

def isWorkingDirectory (path : Path) : Bool := path.same ⟨"."⟩

/-- The path of a name in a directory; names in the working directory stand alone. -/
def inside (path : Path) (name : String) : Path :=
  if isWorkingDirectory path then ⟨name⟩ else path.join name

/-- A directory that cannot be read, and why. -/
structure Unread where
  directory : Path
  fault : Files.ReadFault
  deriving DecidableEq, Repr

def Unread.message (unread : Unread) : String :=
  s!"attempting to read `{unread.directory.text}` resulted in an error: {unread.fault.message}"

/-- What a search comes across. -/
abbrev Found := Except Unread Path

/-- Results of several searches in order. -/
def gather {Item : Type} (search : Item → Effect (List Found)) : List Item → Effect (List Found)
  | [] => return []
  | item :: items => do
      let found ← search item
      return found ++ (← gather search items)

mutual

/-- Search a directory for the components of a pattern. -/
def search (files : Files Effect) (onlyDirectories : Bool) (fuel : Nat)
    (components : List Component) (path : Path) : Effect (List Found) :=
  match fuel, components with
  | 0, _ | _, [] => return []
  | fuel + 1, component :: rest => do
      let isDirectory ← files.hasDirectory path
      match component.literal? with
      | some name =>
          let next := inside path name
          let isThere ←
            if name = "." || name = ".." then pure isDirectory else files.hasAny next
          if isThere then arrive files onlyDirectories fuel rest next else return []
      | none =>
          if isDirectory then
            match ← files.names path with
            | .error fault => return [.error ⟨path, fault⟩]
            | .ok names =>
                let names := names.mergeSort fun left right => left ≤ right
                let dots :=
                  if component.tokens.head? = some (.exactly '.') then
                    ["..", "."].filter component.accepts
                  else []
                let special ←
                  gather (fun dot => arrive files onlyDirectories fuel rest (path.join dot)) dots
                let found ←
                  gather
                    (fun name =>
                      visit files onlyDirectories fuel (component :: rest) (inside path name)
                        name)
                    names
                return special ++ found
          else return []

/-- Go on from a path that the components so far have led to. -/
def arrive (files : Files Effect) (onlyDirectories : Bool) (fuel : Nat)
    (components : List Component) (path : Path) : Effect (List Found) :=
  match fuel, components with
  | 0, _ => return []
  | _ + 1, [] => do
      return if !onlyDirectories || (← files.hasDirectory path) then [.ok path] else []
  | fuel + 1, components => search files onlyDirectories fuel components path

/-- Compare a name in a directory with the components of a pattern. -/
def visit (files : Files Effect) (onlyDirectories : Bool) (fuel : Nat)
    (components : List Component) (path : Path) (name : String) : Effect (List Found) :=
  match fuel, components with
  | 0, _ | _, [] => return []
  | fuel + 1, component :: rest => do
      if component.isRecursive then
        let behind := rest.dropWhile Component.isRecursive
        let isDirectory ← files.hasDirectory path
        let below ←
          if isDirectory then
            search files onlyDirectories fuel (component :: behind) path
          else pure []
        match behind with
        | [] => return if isDirectory then .ok path :: below else []
        | next :: rest =>
            let here ←
              if next.accepts name then arrive files onlyDirectories fuel rest path
              else pure []
            return here ++ below
      else if component.accepts name then arrive files onlyDirectories fuel rest path
      else return []

end

/-- What the search for a pattern comes across. -/
def Pattern.expand (files : Files Effect) (pattern : Pattern) : Effect (List Found) :=
  let start : Path := ⟨if pattern.isAbsolute then "/" else "."⟩
  search files pattern.onlyDirectories (4 * maxPathLength) pattern.components start

/-- Why the paths that a text matches cannot be had. -/
inductive Failure where
  | pattern (fault : Fault)
  | unread (directory : Unread)
  deriving DecidableEq, Repr

/-- The paths that a text matches if it is read as a pattern. -/
def paths (files : Files Effect) (text : String) : Effect (Except Failure (List Path)) := do
  match parse text with
  | .error fault => return .error (.pattern fault)
  | .ok pattern => return ((← pattern.expand files).mapM id).mapError .unread

end Dtdl.Glob
