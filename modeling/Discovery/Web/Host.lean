import Discovery.Text.Utf8
import Discovery.Web.Idna
import Discovery.Web.Percent
import Discovery.Web.Url
/-!
# Reading hosts and why an address fails to read

A host in brackets is an IPv6 address. The host of a special address is decoded from
its percent escapes, brought to its ASCII form as a domain name, and read as an IPv4
address when its last label is a number; it may not be empty. The host of any other
address is opaque: it is kept with its controls and non-ASCII characters escaped, and
may not hold a space or any of `< > [ \ ] ^ |` or a NUL.
-/

namespace Discovery.Web

/-- Why a text is not a web address. -/
inductive ParseError where
  | emptyHost
  | idnaError
  | invalidPort
  | invalidIpv4
  | invalidIpv6
  | invalidDomainCharacter
  | relativeWithoutBase
  | relativeWithOpaqueBase
  deriving DecidableEq, Repr

/-- How each failure reads. -/
def ParseError.message : ParseError → String
  | .emptyHost => "empty host"
  | .idnaError => "invalid international domain name"
  | .invalidPort => "invalid port number"
  | .invalidIpv4 => "invalid IPv4 address"
  | .invalidIpv6 => "invalid IPv6 address"
  | .invalidDomainCharacter => "invalid domain character"
  | .relativeWithoutBase => "relative URL without a base"
  | .relativeWithOpaqueBase => "relative URL with a cannot-be-a-base base"

/-- Characters that an opaque host may not hold. -/
def forbiddenHostChar (c : Char) : Bool :=
  [Char.ofNat 0, '\t', '\n', '\r', ' ', '#', '/', ':', '<', '>', '?', '@', '[', '\\', ']', '^',
    '|'].contains c

/-- An IPv6 address between brackets. -/
def parseBracketed (inner : List Char) : Except ParseError Host :=
  match inner.getLast? with
  | some ']' =>
    match Net.readWebIpv6 inner.dropLast with
    | some a => .ok (.ipv6 a)
    | none => .error .invalidIpv6
  | _ => .error .invalidIpv6

/-- The host of an address; `special` tells a special scheme. -/
def parseHost (special : Bool) (cs : List Char) : Except ParseError Host :=
  match cs with
  | '[' :: inner => parseBracketed inner
  | _ =>
    if !special then
      if cs.any forbiddenHostChar then .error .invalidDomainCharacter
      else .ok (.domain (String.ofList (encodeChars .control cs)))
    else
      match Idna.toAscii (Text.decodeLossy (decodeBytes cs)) with
      | none => .error .idnaError
      | some ascii =>
        if ascii.isEmpty then .error .emptyHost
        else if Net.endsInNumber ascii then
          match Net.readWebIpv4 ascii with
          | some a => .ok (.ipv4 a)
          | none => .error .invalidIpv4
        else .ok (.domain (String.ofList ascii))

end Discovery.Web
