import Dtdl.Path

/-!
# Files and directories

What a program can ask of a file system, in any monad: what stands at a path, the names
in a directory, and the content of a file.  A file tree answers the same questions
without effects; `..` leads from a directory to the one that holds it, and nowhere from
the top of the tree.
-/

namespace Dtdl

/-- What stands at a path. -/
inductive Files.Kind where
  | file
  | directory
  | other
  deriving DecidableEq, Repr

/-- Why the content of a file or the names in a directory cannot be had. -/
inductive Files.ReadFault where
  | missing
  | isDirectory
  | isNoDirectory
  | notText
  | other (message : String)
  deriving DecidableEq, Repr

def Files.ReadFault.message : Files.ReadFault → String
  | missing => "No such file or directory (os error 2)"
  | isDirectory => "Is a directory (os error 21)"
  | isNoDirectory => "Not a directory (os error 20)"
  | notText => "stream did not contain valid UTF-8"
  | other message => message

/-- The questions that a file system answers. -/
structure Files (Effect : Type → Type) where
  kind? : Path → Effect (Option Files.Kind)
  names : Path → Effect (Except Files.ReadFault (List String))
  content : Path → Effect (Except Files.ReadFault ByteArray)

namespace Files

variable {Effect : Type → Type} [Monad Effect]

def hasAny (files : Files Effect) (path : Path) : Effect Bool := do
  return (← files.kind? path).isSome

def hasDirectory (files : Files Effect) (path : Path) : Effect Bool := do
  return (← files.kind? path) = some .directory

def hasFile (files : Files Effect) (path : Path) : Effect Bool := do
  return (← files.kind? path) = some .file

def text (files : Files Effect) (path : Path) : Effect (Except ReadFault String) := do
  match ← files.content path with
  | .error fault => return .error fault
  | .ok bytes =>
      match String.fromUTF8? bytes with
      | some text => return .ok text
      | none => return .error .notText

inductive Tree where
  | file (content : ByteArray)
  | directory (entries : List (String × Tree))

namespace Tree

/-- The directory without entries. -/
def empty : Tree := .directory []

/-- The entries of a directory; a file has none. -/
def entries : Tree → List (String × Tree)
  | file _ => []
  | directory entries => entries

/-- Follow the parts of a path.  The first tree of the list is where the path has led,
the others are the directories around it; every part but the last has to lead to a
directory, and so has the last if it is empty or consists of dots. -/
def follow : List Tree → List (List Char) → Option (List Tree)
  | trail, [] => some trail
  | .directory entries :: around, part :: rest =>
      match part with
      | [] | ['.'] => follow (.directory entries :: around) rest
      | ['.', '.'] => if around.isEmpty then none else follow around rest
      | _ =>
          match entries.lookup (String.ofList part) with
          | some tree => follow (tree :: .directory entries :: around) rest
          | none => none
  | _, _ :: _ => none

def find? (tree : Tree) (path : Path) : Option Tree :=
  if path.text.isEmpty || path.isAbsolute then none
  else (follow [tree] path.parts).bind List.head?

/-- Change the entry of a name, or add one to the end. -/
def updateEntry (name : String) (change : Option Tree → Tree) :
    List (String × Tree) → List (String × Tree)
  | [] => [(name, change none)]
  | entry :: rest =>
      if entry.1 = name then (name, change (some entry.2)) :: rest
      else entry :: updateEntry name change rest

/-- Put a tree at the end of a list of names, with the directories on the way. -/
def insert (added : Tree) : List String → Tree → Tree
  | [], _ => added
  | [name], tree =>
      .directory (updateEntry name
        (fun present =>
          match present, added with
          | some (.directory entries), .directory [] => .directory entries
          | _, _ => added)
        tree.entries)
  | name :: next :: names, tree =>
      .directory (updateEntry name
        (fun present => insert added (next :: names) (present.getD empty)) tree.entries)

/-- The tree as a file system whose working directory is the top of the tree. -/
def files (tree : Tree) : Files Id where
  kind? path :=
    (tree.find? path).map fun found =>
      match found with
      | file _ => .file
      | directory _ => .directory
  names path :=
    match tree.find? path with
    | none => .error .missing
    | some (.directory entries) => .ok (entries.map Prod.fst)
    | some (.file _) => .error .isNoDirectory
  content path :=
    match tree.find? path with
    | none => .error .missing
    | some (.directory _) => .error .isDirectory
    | some (.file content) => .ok content

end Tree

end Files

end Dtdl
