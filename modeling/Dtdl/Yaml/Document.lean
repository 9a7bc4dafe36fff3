import Dtdl.Mismatch
import Dtdl.Yaml.Event
import Dtdl.Yaml.Layout
import Dtdl.Table

/-!
# YAML documents

The first document of a text, as the list of its parts.  Anchors are counted, and a
reference says which of them it means.  Reading stops at the first fault; the parts in
front of it are kept, because a mismatch in them is reported first.
-/

namespace Dtdl.Yaml

inductive Failure where
  | syntactic (fault : Fault)
  | unknownAnchor (position : Position)
  | endOfText
  | severalDocuments
  /-- A mismatch at a path into the document, which is empty for the document itself. -/
  | mismatch (problem : Mismatch) (path : String) (position : Position)
  deriving DecidableEq, Repr

def Failure.message : Failure → String
  | syntactic fault => fault.message
  | unknownAnchor position => "unknown anchor" ++ position.clause
  | endOfText => "EOF while parsing a value"
  | severalDocuments =>
      "deserializing from YAML containing more than one document is not supported"
  | mismatch problem path position =>
      (if path.isEmpty then "" else path ++ ": ") ++ problem.message ++ position.clause

/-- A part of a document in which references are counted. -/
inductive Item where
  /-- Stands for a document of which nothing is written. -/
  | nothing
  | reference (number : Nat)
  | scalar (tag : Option String) (text : String) (style : Style)
  | sequenceStart
  | sequenceEnd
  | mappingStart
  | mappingEnd
  deriving DecidableEq, Repr

/-- A document, as far as it could be read. -/
structure Document where
  items : List (Item × Position)
  /-- The index of the item that the anchor of a number stands at. -/
  targets : List (Nat × Nat)
  failure : Option Failure
  /-- Whether anything but the end of the text follows. -/
  isFollowed : Bool
  deriving DecidableEq, Repr

namespace Document

def empty : Document := ⟨[], [], none, false⟩

def stop (document : Document) (failure : Failure) : Document :=
  { document with failure := some failure }

def add (document : Document) (item : Item) (position : Position) : Document :=
  { document with items := document.items ++ [(item, position)] }

/-- The anchors known so far, with their numbers.  A new anchor gets the number of the
anchors before it; a name that is given again is counted again and keeps its place. -/
abbrev Anchors := List (String × Nat)

/-- Note that the next part has an anchor. -/
def note (document : Document) (anchors : Anchors) : Option String → Document × Anchors
  | none => (document, anchors)
  | some name =>
      let number := anchors.length
      let index := document.items.length
      ({ document with targets := (number, index) :: document.targets },
        Entries.put name number anchors)

/-- Read the first document on. -/
def read (document : Document) (anchors : Anchors) : Events → Document
  | .finished position =>
      if document.items.isEmpty then document.add .nothing position else document
  | .failed fault => document.stop (.syntactic fault)
  | .more event position rest =>
      let anchored (anchor : Option String) (item : Item) : Document × Anchors :=
        let (document, anchors) := document.note anchors anchor
        (document.add item position, anchors)
      match event with
      | .documentStart => read document anchors rest
      | .documentEnd =>
          { document with
            isFollowed := match rest with
              | .finished _ => false
              | _ => true }
      | .reference name =>
          match Entries.find? name anchors with
          | some number => read (document.add (.reference number) position) anchors rest
          | none => document.stop (.unknownAnchor position)
      | .scalar anchor tag text style =>
          let (document, anchors) := anchored anchor (.scalar tag text style)
          read document anchors rest
      | .sequenceStart anchor =>
          let (document, anchors) := anchored anchor .sequenceStart
          read document anchors rest
      | .sequenceEnd => read (document.add .sequenceEnd position) anchors rest
      | .mappingStart anchor =>
          let (document, anchors) := anchored anchor .mappingStart
          read document anchors rest
      | .mappingEnd => read (document.add .mappingEnd position) anchors rest

def ofText (text : String) : Document :=
  read empty [] (Events.ofTokens (Tokens.ofText text))

end Document

end Dtdl.Yaml
