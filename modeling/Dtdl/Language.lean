import Dtdl.Vocabulary.History

/-!
# The vocabulary of the language

Every version of the language defines its terms in groups.  The identifier of a term
is made up of the path of its group, the term itself and the version.  A term that
occurs in two groups of one version keeps its first place in the table and takes its
last meaning.
-/

namespace Dtdl.Language

/-- The version-stripped identifier of the language context. -/
def name : String := "dtmi:dtdl:context"

/-- Whether a context specifier names the language, in any version or in none. -/
def isSpecifier (specifier : String) : Bool :=
  specifier.toList.takeWhile (fun c => c ≠ ';' && c ≠ '#') = name.toList

theorem isSpecifier_iff_of_parse? {specifier : String} {dtmi : Dtmi}
    (parsed : Dtmi.parse? specifier = some dtmi) :
    isSpecifier specifier = true ↔ dtmi.name = name := by
  rw [isSpecifier, decide_eq_true_iff, Dtmi.takeWhile_of_parse? parsed, String.toList_inj]

def classes2 : List String :=
  ["Interface", "Telemetry", "Property", "Command", "Relationship", "Component",
   "CommandPayload", "Array", "Enum", "EnumValue", "Map", "MapKey", "MapValue", "Object",
   "Field"]

def properties2 : List String :=
  ["comment", "commandType", "contents", "description", "displayName", "elementSchema",
   "enumValue", "enumValues", "extends", "fields", "mapKey", "mapValue", "maxMultiplicity",
   "minMultiplicity", "name", "properties", "request", "response", "schema", "schemas",
   "target", "unit", "valueSchema", "writable"]

def schemas2 : List String :=
  ["boolean", "date", "dateTime", "double", "duration", "float", "integer", "long", "string",
   "time"]

/-- Command types, which only version 2 has. -/
def commandTypes : List String :=
  ["synchronous", "asynchronous"]

/-- Semantic types, which belong to the language in version 2 only. -/
def semanticTypes : List String :=
  ["Acceleration", "Angle", "AngularAcceleration", "AngularVelocity", "Area", "Current",
   "DataRate", "DataSize", "Distance", "Energy", "Force", "Frequency", "Humidity",
   "Illuminance", "Length", "Mass", "Power", "Pressure", "RelativeHumidity", "Temperature",
   "TimeSpan", "Velocity", "Voltage", "Volume"]

/-- Units, which belong to the language in version 2 only. -/
def units : List String :=
  ["metrePerSecondSquared", "radian", "degreeOfArc", "squareMetre", "ampere", "bitPerSecond",
   "byte", "metre", "kilometre", "joule", "newton", "hertz", "kilogram", "watt", "pascal",
   "percent", "degreeCelsius", "kelvin", "second", "metrePerSecond", "volt", "litre"]

def classes3 : List String :=
  ["Interface", "Telemetry", "Property", "Command", "Relationship", "Component",
   "CommandRequest", "CommandResponse", "Array", "Enum", "EnumValue", "Map", "MapKey",
   "MapValue", "Object", "Field"]

def properties3 : List String :=
  ["comment", "contents", "description", "displayName", "elementSchema", "enumValue",
   "enumValues", "extends", "fields", "mapKey", "mapValue", "maxMultiplicity",
   "minMultiplicity", "name", "nullable", "properties", "request", "response", "schema",
   "schemas", "target", "valueSchema", "writable"]

def schemas3 : List String :=
  ["boolean", "byte", "bytes", "date", "dateTime", "decimal", "double", "duration", "float",
   "integer", "long", "short", "string", "time", "unsignedByte", "unsignedInteger",
   "unsignedLong", "unsignedShort", "uuid"]

def schemas4 : List String :=
  ["scaledDecimal"]

/-- A group of terms whose identifiers share a path. -/
structure Group where
  path : String
  terms : List String

/-- The groups of a version that are shared by all versions. -/
def commonGroups (classes properties schemas : List String) : List Group :=
  [⟨"dtmi:dtdl:class:", classes⟩, ⟨"dtmi:dtdl:property:", properties⟩,
    ⟨"dtmi:dtdl:instance:Schema:", schemas⟩]

def groups2 : List Group :=
  [⟨"dtmi:dtdl:instance:CommandType:", commandTypes⟩,
    ⟨"dtmi:standard:class:", semanticTypes⟩, ⟨"dtmi:standard:unit:", units⟩]

def identifier (path term : String) (major : Nat) : Identifier :=
  .dtmi {
    labels := ((Text.pieces ':' (path ++ term).toList).drop 1).map String.ofList
    suffix := some ⟨toString major, none⟩
    fragment := none }

/-- An identifier is written as its path, its term and its version. -/
theorem text_identifier {path : String} (leads : Text.startsWith path Dtmi.lead = true)
    (term : String) (major : Nat) :
    (identifier path term major).text = path ++ term ++ (";" ++ toString major) := by
  obtain ⟨rest, written⟩ := Text.startsWith_iff.mp leads
  have word : (path ++ term).toList = Dtmi.scheme.toList ++ ':' :: (rest ++ term.toList) := by
    rw [String.toList_append, ← written]
    simp [Dtmi.lead, Dtmi.scheme]
  have labels : (Text.pieces ':' (path ++ term).toList).drop 1 =
      Text.pieces ':' (rest ++ term.toList) := by
    rw [word, Text.pieces_append (by decide), List.drop_one, List.tail_cons]
  apply String.toList_injective
  rw [identifier, Identifier.text, Dtmi.text, String.toList_append,
    Dtmi.toList_name (by rw [labels])]
  simp [Dtmi.tail, Dtmi.Suffix.text, ← written]

/-- The vocabulary of one version.  Its only prefix stands for the language itself. -/
def vocabulary (major : Nat) (groups : List Group) : Vocabulary where
  version := ⟨major, 0⟩
  terms := Table.ofList (groups.flatMap fun group =>
    group.terms.map fun term => (term, identifier group.path term major))
  prefixes := Table.ofList [("dtdl", "dtmi:dtdl:")]

def versions : List Vocabulary :=
  [vocabulary 2 (commonGroups classes2 properties2 schemas2 ++ groups2),
    vocabulary 3 (commonGroups classes3 properties3 schemas3),
    vocabulary 4 (commonGroups classes3 properties3 (schemas3 ++ schemas4))]

def history : History :=
  versions.foldl (fun history version => (history.add version).2) (History.empty name)

end Dtdl.Language
