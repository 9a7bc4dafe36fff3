import Dtdl.Url
import Dtdl.Url.Path

/-!
# Reading URLs

`Url.parse` accepts every text that can be read as an absolute URL and gives its
normal form: scheme and domain in lower case, the default port left out, dots in the
path resolved, and everything percent-encoded that has to be.

Blanks and controls around the text are dropped, and so are tabs and line breaks
inside it.  The fragment and the query are cut off first, because a number sign ends
everything before it and a question mark everything but the fragment.
-/

namespace Dtdl.Url

/-- How the part after the scheme is to be read. -/
inductive SchemeKind where
  | file
  | special
  | plain
  deriving DecidableEq, Repr

/-- The schemes that are read as network addresses, and their default ports. -/
def defaultPort? (scheme : String) : Option Nat :=
  if scheme = "http" || scheme = "ws" then some 80
  else if scheme = "https" || scheme = "wss" then some 443
  else if scheme = "ftp" then some 21
  else none

def SchemeKind.of (scheme : String) : SchemeKind :=
  if scheme = "file" then .file
  else if (defaultPort? scheme).isSome then .special
  else .plain

/-- The text without surrounding blanks and controls and without line breaks and tabs. -/
def cleaned (text : List Char) : List Char :=
  let outer (c : Char) : Bool := c ≤ ' '
  let trimmed := ((text.dropWhile outer).reverse.dropWhile outer).reverse
  trimmed.filter fun c => !(c = '\t' || c = '\n' || c = '\r')

/-- The scheme in lower case and what follows its colon. -/
def scheme? (text : List Char) : Option (List Char × List Char) :=
  let isSchemeChar (c : Char) : Bool := c.isAlphanum || c = '+' || c = '-' || c = '.'
  match text with
  | first :: _ =>
      match text.dropWhile isSchemeChar with
      | ':' :: rest =>
          if first.isAlpha then some ((text.takeWhile isSchemeChar).map Char.toLower, rest)
          else none
      | _ => none
  | [] => none

def isSlash (special : Bool) (c : Char) : Bool := c = '/' || special && c = '\\'

/-- The part before the last at sign, if there is one, and the part after it. -/
def splitCredentials (authority : List Char) : Option (List Char) × List Char :=
  let backwards := authority.reverse
  match backwards.dropWhile (· ≠ '@') with
  | [] => (none, authority)
  | _ :: credentials => (some credentials.reverse, (backwards.takeWhile (· ≠ '@')).reverse)

/-- The host and what follows it; a colon in brackets belongs to the host. -/
def splitHost (inBrackets : Bool) : List Char → List Char × List Char
  | [] => ([], [])
  | c :: rest =>
      if c = ':' && !inBrackets then ([], c :: rest)
      else
        let inBrackets := c = '[' || inBrackets && c ≠ ']'
        let parts := splitHost inBrackets rest
        (c :: parts.1, parts.2)

/-- Read the port behind a host.  A backslash ends it; that and what follows it is
given back. -/
def parsePort (text : List Char) : Except Fault (Option Nat × List Char) :=
  match text with
  | ':' :: rest =>
      let digits := rest.takeWhile Char.isDigit
      let after := rest.dropWhile Char.isDigit
      if 65535 < Text.decimal digits then .error .port
      else
        match after with
        | [] | '\\' :: _ =>
            .ok (if digits.isEmpty then none else some (Text.decimal digits), after)
        | _ => .error .port
  | _ => .ok (none, text)

/-- Encode a user name or a password. -/
def credential (text : List Char) : String :=
  String.ofList (Percent.encode Percent.userinfo text)

/-- Read an authority and the path behind it.  `followed` says whether a query or a
fragment comes after the path. -/
def parseAuthority (scheme : String) (special followed : Bool) (text : List Char) :
    Except Fault (Authority × String) := do
  let whole := text.takeWhile fun c => !isSlash special c
  let path := text.dropWhile fun c => !isSlash special c
  let (credentials, location) := splitCredentials whole
  if credentials = some [] && location.isEmpty && (followed || !path.isEmpty) then
    throw .emptyHost
  let named := Text.cut ':' (credentials.getD [])
  let username := credential named.1
  let password := credential (named.2.getD [])
  let (hostText, behind) := splitHost false location
  if special && hostText.isEmpty then throw .emptyHost
  let host ← if special then Host.parse hostText else Host.parsePlain hostText
  if host.isEmpty && (special || behind.head? = some ':') then throw .emptyHost
  let (port, rest) ← parsePort behind
  if host.isEmpty && (username ≠ "" || password ≠ "") then throw .emptyHost
  let port := if port = defaultPort? scheme then none else port
  let normalPath :=
    match rest ++ path with
    | [] => if special then ['/'] else []
    | c :: others =>
        if isSlash special c then Path.normal special others
        else Path.normal special (c :: others)
  return (⟨username, password, host, port⟩, String.ofList normalPath)

/-- Read what follows the scheme of a file URL: its host and its path. -/
def parseFile (text : List Char) : Except Fault (Host × String) := do
  let path (text : List Char) : String := String.ofList (Path.normalFile text)
  let drive (text : List Char) : String := String.ofList (Path.normalDrive text)
  match text with
  | first :: second :: rest =>
      if isSlash true first && isSlash true second then
        let hostText := rest.takeWhile fun c => !isSlash true c
        let behind := (rest.dropWhile fun c => !isSlash true c).drop 1
        if Path.isDriveLetter hostText then return (.name "", drive rest)
        else if hostText.isEmpty then return (.name "", path behind)
        else
          let host ← Host.parse hostText
          return (if host = .name "localhost" then .name "" else host, path behind)
      else if isSlash true first then return (.name "", drive (second :: rest))
      else return (.name "", drive text)
  | [first] => return (.name "", path (if isSlash true first then [] else text))
  | [] => return (.name "", path [])

def parse (text : String) : Except Fault Url := do
  match scheme? (cleaned text.toList) with
  | none => throw .relative
  | some (schemeText, rest) =>
      let scheme := String.ofList schemeText
      let (main, fragmentText) := Text.cut '#' rest
      let (body, queryText) := Text.cut '?' main
      let kind := SchemeKind.of scheme
      let fragment := fragmentText.map fun text =>
        String.ofList (Percent.encode Percent.fragment text)
      let reserved := if kind = .plain then Percent.query else Percent.specialQuery
      let query := queryText.map fun text => String.ofList (Percent.encode reserved text)
      let followed := queryText.isSome || fragmentText.isSome
      match kind with
      | .file =>
          let (host, path) ← parseFile body
          return ⟨scheme, some ⟨"", "", host, none⟩, path, query, fragment⟩
      | .special =>
          let (authority, path) ←
            parseAuthority scheme true followed (body.dropWhile (isSlash true))
          return ⟨scheme, some authority, path, query, fragment⟩
      | .plain =>
          match body with
          | '/' :: '/' :: rest =>
              let (authority, path) ← parseAuthority scheme false followed rest
              return ⟨scheme, some authority, path, query, fragment⟩
          | '/' :: rest =>
              return ⟨scheme, none, String.ofList (Path.normal false rest), query, fragment⟩
          | _ => return ⟨scheme, none, String.ofList (Percent.encode [] body), query, fragment⟩

theorem lower_of_scheme? {text scheme rest : List Char}
    (found : scheme? text = some (scheme, rest)) :
    text.map Char.toLower = scheme ++ ':' :: rest.map Char.toLower := by
  cases text with
  | nil => simp [scheme?] at found
  | cons first others =>
      simp only [scheme?] at found
      split at found
      · next behind stops =>
          have whole := List.takeWhile_append_dropWhile (l := first :: others)
            (p := fun c : Char => c.isAlphanum || c = '+' || c = '-' || c = '.')
          simp only [Option.ite_none_right_eq_some, Option.some.injEq, Prod.mk.injEq] at found
          obtain ⟨-, rfl, rfl⟩ := found
          rw [stops] at whole
          have lowered := congrArg (List.map Char.toLower) whole
          rw [List.map_append, List.map_cons] at lowered
          exact lowered.symm
      · simp at found

theorem exists_of_bind_eq_ok {Value Result : Type} {first : Except Fault Value}
    {next : Value → Except Fault Result} {result : Result}
    (succeeded : (first >>= next) = .ok result) :
    ∃ value, first = .ok value ∧ next value = .ok result := by
  cases first with
  | error fault => contradiction
  | ok value => exact ⟨value, rfl, succeeded⟩

theorem scheme_of_parse {text : String} {url : Url} (parsed : parse text = .ok url) :
    ∃ rest, scheme? (cleaned text.toList) = some (url.scheme.toList, rest) := by
  rw [parse] at parsed
  cases found : scheme? (cleaned text.toList) with
  | none =>
      rw [found] at parsed
      contradiction
  | some parts =>
      obtain ⟨scheme, rest⟩ := parts
      have named : url.scheme = String.ofList scheme := by
        simp only [found] at parsed
        -- Whatever its kind is, the scheme is put into the URL as it was read.
        split at parsed
        · obtain ⟨_, -, read⟩ := exists_of_bind_eq_ok parsed
          rw [← Except.ok.inj read]
        · obtain ⟨_, -, read⟩ := exists_of_bind_eq_ok parsed
          rw [← Except.ok.inj read]
        · split at parsed
          · obtain ⟨_, -, read⟩ := exists_of_bind_eq_ok parsed
            rw [← Except.ok.inj read]
          · rw [← Except.ok.inj parsed]
          · rw [← Except.ok.inj parsed]
      exact ⟨rest, by rw [named, String.toList_ofList]⟩

end Dtdl.Url
