import Discovery.Net.Ip
/-!
# Web addresses

A web address has a scheme, an optional user name and password, an optional host with
an optional port, a path, and an optional query and fragment. The path is either a list
of segments, each written after a slash, or opaque text, for addresses such as
`mailto:` ones that have no hierarchy. The special schemes (`http`, `https`, `ws`,
`wss`, `ftp`, `file`) always have a host and a segment path, and their default ports are
left out. An empty host stands for an address written with `//` and nothing after it.

The written form is the scheme and `:`, then `//`, the credentials, the host and the
port when there is a host, then the path, `?` and the query, `#` and the fragment. A
path of segments without a host that starts with an empty segment is written after
`/.` so that it cannot be read back as a host.
-/

namespace Discovery.Web

/-- The host of a web address. -/
inductive Host where
  | domain (name : String)
  | ipv4 (a : Net.Ipv4)
  | ipv6 (a : Net.Ipv6)
  deriving DecidableEq, Repr

/-- How a host is written. -/
def Host.render : Host → String
  | .domain name => name
  | .ipv4 a => a.render
  | .ipv6 a => "[" ++ a.render ++ "]"

/-- The path of a web address. -/
inductive UrlPath where
  | whole (text : String)
  | segments (segs : List String)
  deriving DecidableEq, Repr

/-- How a path is written. -/
def UrlPath.render : UrlPath → String
  | .whole text => text
  | .segments segs => String.join (segs.map ("/" ++ ·))

/-- A parsed web address. Every part is kept as it is written. -/
structure Url where
  scheme : String
  username : String := ""
  password : String := ""
  host : Option Host := none
  port : Option Nat := none
  path : UrlPath := .segments []
  query : Option String := none
  fragment : Option String := none
  deriving DecidableEq, Repr

/-- The default port of a scheme, for the schemes that have one. -/
def defaultPort : String → Option Nat
  | "http" => some 80
  | "https" => some 443
  | "ws" => some 80
  | "wss" => some 443
  | "ftp" => some 21
  | _ => none

/-- The schemes whose addresses always have a host. -/
def isSpecialScheme (s : String) : Bool :=
  s = "http" || s = "https" || s = "ws" || s = "wss" || s = "ftp" || s = "file"

namespace Url

/-- The address has a special scheme. -/
def isSpecial (u : Url) : Bool := isSpecialScheme u.scheme

/-- The path is opaque. -/
def cannotBeABase (u : Url) : Bool :=
  match u.path with
  | .whole _ => true
  | .segments _ => false

/-- The written path. -/
def pathText (u : Url) : String := u.path.render

/-- The written host, when the address has a non-empty one. -/
def hostText? (u : Url) : Option String :=
  match u.host with
  | some (.domain "") => none
  | some h => some h.render
  | none => none

/-- The credentials and `@`, when there are any. -/
def userinfoText (u : Url) : String :=
  if u.username.isEmpty && u.password.isEmpty then ""
  else u.username ++ (if u.password.isEmpty then "" else ":" ++ u.password) ++ "@"

/-- The written form of the address. -/
def render (u : Url) : String :=
  let authority :=
    match u.host with
    | some h => "//" ++ u.userinfoText ++ h.render ++
        (match u.port with | some p => ":" ++ toString p | none => "")
    | none =>
      match u.path with
      | .segments ("" :: _ :: _) => "/."
      | _ => ""
  u.scheme ++ ":" ++ authority ++ u.pathText ++
    (match u.query with | some q => "?" ++ q | none => "") ++
    (match u.fragment with | some f => "#" ++ f | none => "")

/-- The host and the port that is not the default, as `host:port`; empty without a
host. -/
def hostWithPort (u : Url) : String :=
  let host := u.hostText?.getD ""
  match u.port with
  | some p => host ++ ":" ++ toString p
  | none => host

end Url

end Discovery.Web
