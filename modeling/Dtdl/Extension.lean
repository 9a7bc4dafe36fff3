import Dtdl.Vocabulary.History

/-!
# Extensions of the language

These extension contexts belong to the language and are known to every resolver.  The
identifier of a term is made up of the family, the version, the kind of the term and
the term itself, and carries no version of its own.
-/

namespace Dtdl.Extension

/-- What the name of every such extension begins with. -/
def lead : String := "dtmi:dtdl:extension:"

structure Group where
  kind : String
  terms : List String

structure Release where
  major : Nat
  groups : List Group

/-- An extension: the last label of its name, and its versions. -/
structure Family where
  label : String
  releases : List Release

def quantitativeTypes : Family where
  label := "quantitativeTypes"
  releases :=
    [⟨1, [⟨"class",
            ["Acceleration", "Angle", "Area", "Distance", "Energy", "Force", "Frequency",
             "Length", "Mass", "Power", "Pressure", "Temperature", "TimeSpan", "Velocity",
             "Voltage", "AccelerationUnit", "AngleUnit", "LengthUnit", "TemperatureUnit",
             "TimeUnit"]⟩,
          ⟨"property",
            ["unit"]⟩,
          ⟨"unit",
            ["metrePerSecondSquared", "radian", "degreeOfArc", "squareMetre", "metre",
             "kilometre", "joule", "newton", "hertz", "kilogram", "watt", "pascal",
             "degreeCelsius", "kelvin", "second", "metrePerSecond", "volt"]⟩]⟩]

def historization : Family where
  label := "historization"
  releases :=
    [⟨1, [⟨"class",
            ["Historized"]⟩]⟩]

def annotation : Family where
  label := "annotation"
  releases :=
    [⟨1, [⟨"class",
            ["ValueAnnotation"]⟩,
          ⟨"property",
            ["annotates"]⟩]⟩]

def overriding : Family where
  label := "overriding"
  releases :=
    [⟨1, [⟨"class",
            ["Override"]⟩,
          ⟨"property",
            ["overrides"]⟩]⟩]

def requirement : Family where
  label := "requirement"
  releases :=
    [⟨1, [⟨"class",
            ["Required"]⟩]⟩]

def mqtt : Family where
  label := "mqtt"
  releases :=
    [⟨1, [⟨"class",
            ["Mqtt", "Indexed"]⟩,
          ⟨"property",
            ["telemetryTopic", "commandTopic", "payloadFormat", "index"]⟩]⟩,
      ⟨2, [⟨"class",
            ["Mqtt", "Indexed", "Idempotent", "Cacheable"]⟩,
          ⟨"property",
            ["telemetryTopic", "commandTopic", "payloadFormat", "telemetryServiceGroupId",
             "cmdServiceGroupId", "index", "ttl"]⟩]⟩]

/-- All families, in the order in which they are searched. -/
def families : List Family :=
  [quantitativeTypes, historization, annotation, overriding, requirement, mqtt]

def Family.name (family : Family) : String := lead ++ family.label

def identifier (family kind term : String) (major : Nat) : Identifier :=
  .dtmi {
    labels := ["dtdl", "extension", family, "v" ++ toString major, kind, term]
    suffix := none
    fragment := none }

def Family.vocabulary (family : Family) (release : Release) : Vocabulary where
  version := ⟨release.major, 0⟩
  terms := Table.ofList (release.groups.flatMap fun group =>
    group.terms.map fun term => (term, identifier family.label group.kind term release.major))
  prefixes := Table.empty

def Family.history (family : Family) : History :=
  family.releases.foldl (fun history release => (history.add (family.vocabulary release)).2)
    (History.empty family.name)

/-- The histories of all families, under their names. -/
def histories : Table History :=
  Table.ofList (families.map fun family => (family.name, family.history))

end Dtdl.Extension
