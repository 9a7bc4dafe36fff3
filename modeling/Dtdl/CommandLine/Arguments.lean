import Dtdl.Path
import Dtdl.Resolver

/-!
# Arguments of the command line

A word that begins with two dashes is an option by its long name, and one that begins
with a single dash is a run of short options.  A value follows its option, or an equals
sign behind a long name; a value in a word of its own may not look like an option.
Behind a word of two dashes alone every word is a plain one.

An option other than `-v` may be given only once.  Asking for the version or for help
ends reading at once, so that only what stands in front of it can be wrong.
-/

namespace Dtdl.CommandLine

/-- How the result of a run is shown. -/
inductive Format where
  | human
  | json
  deriving DecidableEq, Repr

/-- What a run is asked to do. -/
inductive Command where
  | resolve (path : Path) (format : Format) (options : Resolver.Options)
  | terms (version : Option Nat) (extension : Option String)
  deriving DecidableEq, Repr

/-- What the arguments come to. -/
inductive Request where
  | run (command : Command)
  | showVersion
  | showHelp
  | misuse
  deriving DecidableEq, Repr

namespace Arguments

/-- Where reading ends before all words are read. -/
inductive Halt where
  | showVersion
  | showHelp
  | misuse
  deriving DecidableEq, Repr

/-- What an option asks for. -/
inductive Action where
  /-- May be given any number of times and changes nothing. -/
  | louder
  | flag
  | value
  | halt (halt : Halt)
  deriving DecidableEq, Repr

structure Switch where
  long : String
  short : Option Char
  action : Action
  deriving DecidableEq, Repr

/-- What a level of the command line knows. -/
structure Grammar where
  switches : List Switch
  /-- Whether its first plain word is the name of a command. -/
  hasCommands : Bool
  /-- The number of plain words it takes. -/
  plainWords : Nat
  deriving DecidableEq, Repr

/-- The switches that are known everywhere. -/
def commonSwitches : List Switch :=
  [⟨"verbose", some 'v', .louder⟩, ⟨"help", some 'h', .halt .showHelp⟩]

/-- The words in front of the command. -/
def mainGrammar : Grammar :=
  ⟨⟨"version", some 'V', .halt .showVersion⟩ :: commonSwitches, true, 0⟩

/-- The words of the command that resolves documents. -/
def resolveGrammar : Grammar :=
  ⟨[⟨"format", none, .value⟩, ⟨"max-dtdl-version", none, .value⟩,
    ⟨"allow-undefined-extensions", none, .flag⟩] ++ commonSwitches, false, 1⟩

/-- The words of the command that lists terms. -/
def termsGrammar : Grammar :=
  ⟨[⟨"version", none, .value⟩, ⟨"extension", none, .value⟩] ++ commonSwitches, false, 0⟩

/-- What has been read: the values of options, and the plain words. -/
structure Reading where
  values : List (String × String)
  words : List String
  deriving DecidableEq, Repr

def Reading.value? (reading : Reading) (name : String) : Option String :=
  reading.values.lookup name

/-- Note the value of an option, which may not have one yet. -/
def Reading.note (reading : Reading) (name value : String) : Except Halt Reading :=
  if (reading.value? name).isSome then .error .misuse
  else .ok { reading with values := (name, value) :: reading.values }

/-- The whole number of at most 32 bits that a text stands for.  A sign may stand in
front of its digits. -/
def number? (text : String) : Option Nat :=
  let (isNegative, digits) :=
    match text.toList with
    | '-' :: rest => (true, rest)
    | '+' :: rest => (false, rest)
    | rest => (false, rest)
  let value := Text.decimal digits
  if digits.isEmpty || !digits.all Char.isDigit || Version.limit < value ||
      isNegative && value ≠ 0 then
    none
  else some value

/-- Whether an option takes a text as its value. -/
def isValid (name value : String) : Bool :=
  if name = "version" || name = "max-dtdl-version" then (number? value).isSome else true

/-- Note the value of an option that takes it. -/
def Reading.noteValid (reading : Reading) (name value : String) : Except Halt Reading :=
  if isValid name value then reading.note name value else .error .misuse

def looksLikeOption (word : String) : Bool :=
  match word.toList with
  | '-' :: _ :: _ => true
  | _ => false

/-- Read a run of short options, none of which takes a value. -/
def shortRun (grammar : Grammar) (reading : Reading) : List Char → Except Halt Reading
  | [] => .ok reading
  | c :: rest =>
      match grammar.switches.find? (·.short = some c) with
      | some ⟨_, _, .louder⟩ => shortRun grammar reading rest
      | some ⟨_, _, .halt halt⟩ => .error halt
      | _ => .error .misuse

/-- Read words.  The words behind the name of a command are given back. -/
def read (grammar : Grammar) (reading : Reading) :
    List String → Except Halt (Reading × List String)
  | [] => .ok (reading, [])
  | word :: rest =>
      match word.toList with
      | ['-', '-'] => plainOnly reading rest
      | '-' :: '-' :: long => do
          let (name, attached) := Text.cut '=' long
          let name := String.ofList name
          match grammar.switches.find? (·.long = name), attached with
          | some ⟨_, _, .louder⟩, none => read grammar reading rest
          | some ⟨_, _, .flag⟩, none => read grammar (← reading.note name "") rest
          | some ⟨_, _, .halt halt⟩, none => .error halt
          | some ⟨_, _, .value⟩, some value =>
              read grammar (← reading.noteValid name (String.ofList value)) rest
          | some ⟨_, _, .value⟩, none =>
              match rest with
              | value :: rest =>
                  if looksLikeOption value then .error .misuse
                  else read grammar (← reading.noteValid name value) rest
              | [] => .error .misuse
          | _, _ => .error .misuse
      | '-' :: c :: short => do read grammar (← shortRun grammar reading (c :: short)) rest
      | _ =>
          if grammar.hasCommands then .ok ({ reading with words := [word] }, rest)
          else if reading.words.length < grammar.plainWords && word ≠ "" then
            read grammar { reading with words := reading.words ++ [word] } rest
          else .error .misuse
where
  /-- Read words none of which is an option. -/
  plainOnly (reading : Reading) (words : List String) :
      Except Halt (Reading × List String) :=
    let all := reading.words ++ words
    if grammar.plainWords < all.length || words.contains "" then .error .misuse
    else .ok ({ reading with words := all }, [])

def command (words : List String) : Except Halt Command := do
  let (front, rest) ← read mainGrammar ⟨[], []⟩ words
  match front.words with
  | ["resolve"] =>
      let (reading, _) ← read resolveGrammar ⟨[], []⟩ rest
      let format := if reading.value? "format" = some "json" then Format.json else .human
      let maxVersion := (reading.value? "max-dtdl-version").bind number?
      let allowUndefined := (reading.value? "allow-undefined-extensions").isSome
      return .resolve ⟨reading.words.headD "."⟩ format ⟨maxVersion, allowUndefined⟩
  | ["terms"] =>
      let (reading, _) ← read termsGrammar ⟨[], []⟩ rest
      return .terms ((reading.value? "version").bind number?) (reading.value? "extension")
  | ["help"] =>
      throw (if rest.length ≤ 1 && rest.all ["resolve", "terms", "help"].contains then .showHelp
        else .misuse)
  | _ => throw .misuse

end Arguments

def Request.ofWords (words : List String) : Request :=
  match Arguments.command words with
  | .ok command => .run command
  | .error .showVersion => .showVersion
  | .error .showHelp => .showHelp
  | .error .misuse => .misuse

end Dtdl.CommandLine
