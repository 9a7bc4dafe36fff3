import Dtdl.Resolver
import Dtdl.Yaml.Record

/-!
# Settings of a project

A directory of documents may hold a file with settings: the patterns that select its
documents, and what the resolver is to be strict about.  What is asked for on a single
run goes before the settings.
-/

namespace Dtdl.Project

open Yaml (Reader)

structure Settings where
  /-- The patterns that select documents, if they are given. -/
  sources : Option (List String)
  options : Resolver.Options
  deriving DecidableEq, Repr

namespace Settings

/-- The name of the file with the settings. -/
def fileName : String := "dtdl-context.config.yaml"

/-- Settings of which some fields have been read. -/
structure Draft where
  sources : Option (Option (List String))
  maxVersion : Option (Option Nat)
  allowUndefined : Option Bool

/-- The fields of the settings, each of which may be left out. -/
def fields : List (Reader.Field Draft) :=
  [{ name := "sources"
     isRead := (·.sources.isSome)
     read := fun record draft => do
       let path := "sources"
       let patterns := Reader.sequence path fun path => Reader.string path "a string"
       return { draft with sources := some (← Reader.optional record patterns) } },
   { name := "maxDtdlVersion"
     isRead := (·.maxVersion.isSome)
     read := fun record draft => do
       let version := Reader.word32 "maxDtdlVersion"
       return { draft with maxVersion := some (← Reader.optional record version) } },
   { name := "allowUndefinedExtensions"
     isRead := (·.allowUndefined.isSome)
     read := fun _ draft => do
       let allowed ← Reader.bool "allowUndefinedExtensions"
       return { draft with allowUndefined := some allowed } }]

def read : Reader Settings := do
  let draft ← Reader.record "struct ProjectConfig" fields ⟨none, none, none⟩
  return ⟨draft.sources.getD none, ⟨draft.maxVersion.getD none, draft.allowUndefined.getD false⟩⟩

def parse (text : String) : Except Yaml.Failure Settings := Reader.document read text

/-- The options of a run: a highest version asked for on the run replaces that of the
settings, and unknown contexts are passed over if either says so. -/
def optionsOf (settings : Option Settings) (asked : Resolver.Options) : Resolver.Options :=
  match settings with
  | none => asked
  | some settings =>
      ⟨asked.maxVersion <|> settings.options.maxVersion,
        asked.allowUndefined || settings.options.allowUndefined⟩

end Settings

end Dtdl.Project
