import Dtdl.Url.Address
import Dtdl.Url.Domain
import Dtdl.Url.Percent

/-!
# Hosts

The host of a special scheme is a domain name or an address.  The host of any other
scheme is a text of its own, in which only the characters that would end it are
refused.  Most of the reasons why a text is no URL are found here.
-/

namespace Dtdl.Url

/-- The reasons why a text is not an absolute URL. -/
inductive Fault where
  | relative
  | emptyHost
  | port
  | ipv4
  | ipv6
  | domainName
  | hostCharacter
  deriving DecidableEq, Repr

def Fault.message : Fault → String
  | relative => "relative URL without a base"
  | emptyHost => "empty host"
  | port => "invalid port number"
  | ipv4 => "invalid IPv4 address"
  | ipv6 => "invalid IPv6 address"
  | domainName => "invalid international domain name"
  | hostCharacter => "invalid domain character"

inductive Host where
  | name (text : String)
  | ipv4 (address : Nat)
  | ipv6 (groups : List Nat)
  deriving DecidableEq, Repr

namespace Host

def text : Host → String
  | name text => text
  | ipv4 address => Ipv4.text address
  | ipv6 groups => "[" ++ String.ofList (Ipv6.text groups) ++ "]"

def isEmpty (host : Host) : Bool := host = name ""

/-- Read an address in brackets. -/
def bracketed (body : List Char) : Except Fault Host :=
  if body.getLast? = some ']' then
    match Ipv6.parse? body.dropLast with
    | some groups => .ok (.ipv6 groups)
    | none => .error .ipv6
  else .error .ipv6

/-- Whether a character may not stand in the host of a scheme that is not special. -/
def isForbidden (c : Char) : Bool :=
  "\x00\t\n\r #/:<>?@[\\]^|".toList.contains c

/-- Read the host of a scheme that is not special. -/
def parsePlain (host : List Char) : Except Fault Host :=
  match host with
  | '[' :: body => bracketed body
  | _ =>
      if host.any isForbidden then .error .hostCharacter
      else .ok (.name (String.ofList (Percent.encode [] host)))

/-- Read the host of a special scheme.  It is percent-decoded first, and what then ends
in a number has to be an IPv4 address. -/
def parse (host : List Char) : Except Fault Host :=
  match host with
  | '[' :: body => bracketed body
  | _ =>
      match (String.fromUTF8? (ByteArray.mk (Percent.decode host).toArray)).bind
          fun decoded => Domain.ascii? decoded.toList with
      | none => .error .domainName
      | some domain =>
          if domain.isEmpty then .error .emptyHost
          else if Ipv4.isNumeric domain then
            match Ipv4.parse? domain with
            | some address => .ok (.ipv4 address)
            | none => .error .ipv4
          else .ok (.name (String.ofList domain))

end Host

end Dtdl.Url
