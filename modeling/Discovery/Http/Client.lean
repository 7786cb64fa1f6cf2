import Discovery.Options.Basic
import Discovery.Transport
import Discovery.Text.Search
import Discovery.Text.Utf8
import Discovery.Web.Parse
/-!
# The web client

The client of a path scan is built once from the options: its user agent (the options'
one, or `ybuster/0.1.0`), an optional proxy that carries every request, the cookie
header, the basic credentials when both name and password are given, the list of
random agents and whether a size header may replace the counted size. Building fails
when the proxy address cannot serve as a proxy, or when the user agent cannot be a
header value.

Requests go out on a network where no host can be reached: a request that is well
formed fails when it tries to connect, after naming the address in its own spelling. A
request fails earlier when its address cannot be read, has no host, or is not `http` or
`https`, or when a header cannot be sent. A failure whose text mentions a certificate is
a certificate failure.
-/

namespace Discovery.Http

open Discovery.Text Discovery.Web

/-- The user agent of a client that is not given one. -/
def defaultUserAgent : String := "ybuster/0.1.0"

/-- Bytes that a header value may hold: tab, and everything from space on except delete. -/
def isHeaderByte (b : UInt8) : Bool := b == 9 || (32 ≤ b && b != 127)

/-- Text that can be sent as a header value. -/
def isHeaderValue (s : String) : Bool := (Text.encode s).all isHeaderByte

/-- Characters that the authority of a proxy may hold. -/
def isAuthorityChar (c : Char) : Bool :=
  c.isAlphanum || "-._~!$&'()*+,;=:[]@%".toList.contains c

/-- A failure to turn text into a request address, as the client words it. -/
inductive AddressError where
  /-- The text is not an address. -/
  | unreadable (e : ParseError)
  /-- The address has no host. -/
  | badScheme (u : Url)

/-- The words of an address failure. -/
def AddressError.message : AddressError → String
  | .unreadable e => "builder error: " ++ e.message
  | .badScheme u => "builder error for url (" ++ u.render ++ "): URL scheme is not allowed"

/-- Read a request address: it must parse and have a non-empty host. -/
def readAddress (raw : String) : Except AddressError Url :=
  match parse raw with
  | .error e => .error (.unreadable e)
  | .ok u => if u.hostText?.isSome then .ok u else .error (.badScheme u)

/-- Read a proxy address. A text that reads as no address, or as one without a host,
is tried again with `http://` in front; a failure then reports the first reading. -/
def readProxy (raw : String) : Except String Url :=
  let first := readAddress raw
  let retry : Bool := match first with
    | .error (.unreadable .relativeWithoutBase) => true
    | .error (.badScheme _) => true
    | _ => false
  let url : Except AddressError Url :=
    match first with
    | .ok u => .ok u
    | .error e =>
      if retry then
        match readAddress ("http://" ++ raw) with
        | .ok u => .ok u
        | .error _ => .error e
      else .error e
  match url with
  | .error e => .error ("builder error: " ++ e.message)
  | .ok u =>
    if u.scheme = "http" || u.scheme = "https" then
      if (u.hostWithPort.toList.all isAuthorityChar) then .ok u
      else .error "builder error: invalid uri character"
    else .error "builder error: unknown proxy scheme"

/-- A client built from the options. -/
structure Client where
  userAgent : String
  proxy : Option Url := none
  cookie : Option String := none
  credentials : Option (String × String) := none
  agents : List String := []
  includeLength : Bool := false
  deriving Repr

/-- Build the client of a scan. -/
def Client.ofOptions (o : Options) : Except ScanError Client :=
  let proxy : Except String (Option Url) :=
    match o.proxy with
    | none => .ok none
    | some raw => (readProxy raw).map some
  match proxy with
  | .error e => .error (.invalidOptions ["proxy URL is invalid (" ++ e ++ ")"])
  | .ok proxy =>
    let userAgent := o.userAgent.getD defaultUserAgent
    if !isHeaderValue userAgent then
      .error (.invalidOptions ["failed to build HTTP client: builder error: failed to parse header value"])
    else
      .ok { userAgent, proxy,
            cookie := o.cookies.filter (!·.isEmpty),
            credentials := match o.username, o.password with
              | some u, some p => some (u, p)
              | _, _ => none,
            agents := o.randomAgents,
            includeLength := o.includeLength }

/-- Why connecting to a host fails on a network where nothing can be reached: an
address or a name the host table knows cannot be routed to, any other name cannot be
looked up. -/
def connectFailure (host : Option Host) : String :=
  match host with
  | some (.domain name) =>
    if name = "localhost" then "tcp connect error: Network is unreachable (os error 101)"
    else "dns error: failed to lookup address information: Temporary failure in name resolution"
  | _ => "tcp connect error: Network is unreachable (os error 101)"

/-- The failure of one request, before it reaches any host. -/
def Client.failure (c : Client) (raw : String) : String :=
  match readAddress raw with
  | .error e => e.message
  | .ok u =>
    let agentOk := match c.agents.head? with
      | some a => isHeaderValue a
      | none => true
    if !(c.cookie.all isHeaderValue) || !agentOk then "builder error: failed to parse header value"
    else if !(u.scheme = "http" || u.scheme = "https") then (AddressError.badScheme u).message
    else
      let through := match c.proxy with
        | some p => p.host
        | none => u.host
      "error sending request for url (" ++ u.render ++ "): error trying to connect: " ++
        connectFailure through

/-- A failure text that mentions a certificate is a certificate failure. -/
def classify (text : String) : TransportError :=
  let lower := text.toLower
  if contains lower "certificate" || contains lower "x509" then .invalidCertificate text
  else .request text

/-- The client as a transport: every request fails. -/
def Client.transport (c : Client) : Transport Unit := fun url s =>
  (.error (classify (c.failure url)), s)

end Discovery.Http
