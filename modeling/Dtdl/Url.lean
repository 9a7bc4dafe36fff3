import Dtdl.Url.Host

/-!
# Absolute URLs

A URL is kept in its parts, each in its final written form.  `Url.text` puts them
together again.
-/

namespace Dtdl

/-- What follows the two slashes of a URL: credentials, a host and a port. -/
structure Url.Authority where
  username : String
  password : String
  host : Url.Host
  port : Option Nat
  deriving DecidableEq, Repr

/-- An absolute URL in normal form. -/
structure Url where
  scheme : String
  authority : Option Url.Authority
  path : String
  query : Option String
  fragment : Option String
  deriving DecidableEq, Repr

namespace Url

def Authority.text (authority : Authority) : String :=
  let password := if authority.password = "" then "" else ":" ++ authority.password
  let credentials := authority.username ++ password
  (if credentials = "" then "" else credentials ++ "@") ++ authority.host.text ++
    (authority.port.elim "" fun port => ":" ++ toString port)

/-- The written form of a URL.  Without an authority a path must not begin with two
slashes, so a dot segment is put in front of it. -/
def text (url : Url) : String :=
  url.scheme ++ ":" ++
    (match url.authority with
    | some authority => "//" ++ authority.text
    | none => if Text.startsWith url.path "//" then "/." else "") ++
    url.path ++
    (url.query.elim "" fun query => "?" ++ query) ++
    (url.fragment.elim "" fun fragment => "#" ++ fragment)

/-- A written URL begins with its scheme and a colon. -/
theorem startsWith_text (url : Url) : Text.startsWith url.text (url.scheme ++ ":") = true := by
  have self : Text.startsWith (url.scheme ++ ":") (url.scheme ++ ":") = true :=
    Text.startsWith_iff.mpr (List.prefix_refl _)
  rw [text]
  iterate 4 refine Text.startsWith_append ?_ _
  exact self

end Url

end Dtdl
