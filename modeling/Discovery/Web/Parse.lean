import Discovery.Web.Host
/-!
# Reading web addresses

A text is read as a web address, optionally against a base address, by the rules of
the web's address standard. Leading and trailing controls and spaces are cut and tabs
and line breaks removed everywhere. A scheme is a letter followed by letters, digits,
`+`, `-` and `.`, then a colon, and is kept in small letters. A special scheme skips
any slashes and backslashes after the colon and reads an authority up to the first
slash, backslash, `?` or `#`: credentials before its last `@`, the user name up to the
first colon, then the host and an optional port of ASCII digits below 65536, dropped
when it is the scheme's default. Paths are cut at slashes (and backslashes, for special
schemes) into escaped segments; a `.` segment vanishes and a `..` segment removes the
one before it, also when written with `%2e`. A scheme that is not special and not
followed by a slash has an opaque path. Without a scheme the text is resolved against
the base. `file` addresses have their own rules for hosts and drive letters.
-/

namespace Discovery.Web

/-- Cut leading and trailing controls and spaces, and drop tabs and line breaks. -/
def preprocess (s : String) : List Char :=
  let low := fun (c : Char) => c.toNat ≤ 0x20
  let cs := ((s.toList.dropWhile low).reverse.dropWhile low).reverse
  cs.filter fun c => c ≠ '\t' && c ≠ '\n' && c ≠ '\r'

/-- A character that may follow the first letter of a scheme. -/
def isSchemeChar (c : Char) : Bool :=
  c.isAlphanum || c = '+' || c = '-' || c = '.'

/-- The scheme in small letters and what follows its colon. -/
def splitScheme (cs : List Char) : Option (String × List Char) :=
  match cs with
  | c :: rest =>
    if c.isAlpha then
      let body := rest.takeWhile isSchemeChar
      match rest.drop body.length with
      | ':' :: after => some (String.ofList ((c :: body).map Char.toLower), after)
      | _ => none
    else none
  | [] => none

/-- A segment that means the segment itself: `.` or `%2e`. -/
def isSingleDot (seg : List Char) : Bool :=
  let s := String.ofList (seg.map Char.toLower)
  s = "." || s = "%2e"

/-- A segment that means the parent: `..` with either dot possibly written `%2e`. -/
def isDoubleDot (seg : List Char) : Bool :=
  let s := String.ofList (seg.map Char.toLower)
  s = ".." || s = ".%2e" || s = "%2e." || s = "%2e%2e"

/-- A letter and a colon or a bar. -/
def isDriveLetter (seg : List Char) : Bool :=
  match seg with
  | [a, b] => a.isAlpha && (b = ':' || b = '|')
  | _ => false

/-- A letter and a colon. -/
def isNormalizedDriveLetter (seg : String) : Bool :=
  match seg.toList with
  | [a, b] => a.isAlpha && b = ':'
  | _ => false

/-- The text starts with a drive letter that ends there or at a separator. -/
def startsWithDriveLetter (cs : List Char) : Bool :=
  isDriveLetter (cs.take 2) &&
    match cs.drop 2 with
    | [] => true
    | c :: _ => c = '/' || c = '\\' || c = '?' || c = '#'

/-- A path without its last segment; the drive letter of a file path stays. -/
def shorten (isFile : Bool) (path : List String) : List String :=
  match path with
  | [seg] => if isFile && isNormalizedDriveLetter seg then path else []
  | _ => path.dropLast

/-- Add the segment `buf` to the path; `slash` tells that a slash follows it. -/
def pathStep (isFile : Bool) (path : List String) (buf : List Char) (slash : Bool) : List String :=
  if isDoubleDot buf then
    let p := shorten isFile path
    if slash then p else p ++ [""]
  else if isSingleDot buf then
    if slash then path else path ++ [""]
  else
    let buf := if isFile && path.isEmpty && isDriveLetter buf then buf.take 1 ++ [':'] else buf
    path ++ [String.ofList buf]

/-- Read path segments up to `?`, `#` or the end; returns the path and what is left. -/
def readPath (special isFile : Bool) : List Char → List String → List Char →
    List String × List Char
  | [], path, buf => (pathStep isFile path buf false, [])
  | c :: rest, path, buf =>
    if c = '/' || (special && c = '\\') then readPath special isFile rest (pathStep isFile path buf true) []
    else if c = '?' || c = '#' then (pathStep isFile path buf false, c :: rest)
    else readPath special isFile rest path (buf ++ encodeChar .path c)

/-- Read the query and the fragment that end an address. -/
def readTail (special : Bool) (u : Url) : List Char → Url
  | '?' :: rest =>
    let q := rest.takeWhile (· ≠ '#')
    let set := if special then EncodeSet.specialQuery else EncodeSet.query
    let u := { u with query := some (String.ofList (encodeChars set q)) }
    match rest.drop q.length with
    | '#' :: f => { u with fragment := some (String.ofList (encodeChars .fragment f)) }
    | _ => u
  | '#' :: f => { u with fragment := some (String.ofList (encodeChars .fragment f)) }
  | _ => u

/-- Read a segment path from the text onto the path that `u` has, then the tail. -/
def readPathFrom (u : Url) (init : List String) (cs : List Char) : Url :=
  let (path, rest) := readPath u.isSpecial (u.scheme = "file") cs init []
  readTail u.isSpecial { u with path := .segments path } rest

/-- Read an opaque path, then the tail. -/
def readWholePath (u : Url) (cs : List Char) : Url :=
  let p := cs.takeWhile fun c => c ≠ '?' && c ≠ '#'
  readTail false { u with path := .whole (String.ofList (encodeChars .control p)) }
    (cs.drop p.length)

/-- The path after an authority or a file host. -/
def readPathStart (u : Url) (cs : List Char) : Url :=
  if u.isSpecial then
    match cs with
    | '/' :: r => readPathFrom u [] r
    | '\\' :: r => readPathFrom u [] r
    | r => readPathFrom u [] r
  else
    match cs with
    | [] => { u with path := .segments [] }
    | '?' :: _ => readTail false { u with path := .segments [] } cs
    | '#' :: _ => readTail false { u with path := .segments [] } cs
    | '/' :: r => readPathFrom u [] r
    | r => readPathFrom u [] r

/-- Split at the first colon outside brackets. -/
def splitHostPort : List Char → Bool → List Char × Option (List Char)
  | [], _ => ([], none)
  | c :: rest, inside =>
    if c = ':' && !inside then ([], some rest)
    else
      let inside := if c = '[' then true else if c = ']' then false else inside
      let r := splitHostPort rest inside
      (c :: r.1, r.2)

/-- A port: ASCII digits below 65536; none when empty or the default. -/
def readPort (scheme : String) (cs : List Char) : Except ParseError (Option Nat) :=
  if cs.isEmpty then .ok none
  else if cs.all Char.isDigit then
    let n := cs.foldl (fun (n : Nat) (c : Char) => n * 10 + (c.toNat - 48)) 0
    if n > 65535 then .error .invalidPort
    else if defaultPort scheme = some n then .ok none
    else .ok (some n)
  else .error .invalidPort

/-- Read an authority and the rest of the address after it. -/
def readAuthority (u : Url) (cs : List Char) : Except ParseError Url :=
  let special := u.isSpecial
  let auth := cs.takeWhile fun c => !(c = '/' || c = '?' || c = '#' || (special && c = '\\'))
  let rest := cs.drop auth.length
  let afterAt := (auth.reverse.takeWhile (· ≠ '@')).reverse
  let atSeen := afterAt.length < auth.length
  let userinfo := auth.take (auth.length - afterAt.length - 1)
  let user := userinfo.takeWhile (· ≠ ':')
  let pass := (userinfo.drop user.length).drop 1
  let u := if atSeen then
      { u with username := String.ofList (encodeChars .userinfo user),
               password := String.ofList (encodeChars .userinfo pass) }
    else u
  if atSeen && afterAt.isEmpty then .error .emptyHost
  else
    let (hostText, portText) := splitHostPort afterAt false
    if hostText.isEmpty && (portText.isSome || special) then .error .emptyHost
    else
      match parseHost special hostText with
      | .error e => .error e
      | .ok host =>
        match readPort u.scheme (portText.getD []) with
        | .error e => .error e
        | .ok port => .ok (readPathStart { u with host := some host, port } rest)

/-- Skip slashes and backslashes. -/
def dropSlashes (cs : List Char) : List Char := cs.dropWhile fun c => c = '/' || c = '\\'

/-- The host of a file address and the rest after it. -/
def readFileHost (u : Url) (cs : List Char) : Except ParseError Url :=
  let hostText := cs.takeWhile fun c => !(c = '/' || c = '\\' || c = '?' || c = '#')
  let rest := cs.drop hostText.length
  if isDriveLetter hostText then .ok (readPathFrom u [] cs)
  else if hostText.isEmpty then .ok (readPathStart { u with host := some (.domain "") } rest)
  else
    match parseHost true hostText with
    | .error e => .error e
    | .ok host =>
      let host := if host = .domain "localhost" then .domain "" else host
      .ok (readPathStart { u with host := some host } rest)

/-- The segments of a path, empty for an opaque one. -/
def UrlPath.segs : UrlPath → List String
  | .segments s => s
  | .whole _ => []

/-- A file address, possibly against a file base. -/
def readFile (base : Option Url) (cs : List Char) : Except ParseError Url :=
  let u : Url := { scheme := "file", host := some (.domain "") }
  match cs with
  | c :: r =>
    if c = '/' || c = '\\' then
      match r with
      | d :: r' =>
        if d = '/' || d = '\\' then readFileHost u r'
        else readFileSlashOther base u r
      | [] => readFileSlashOther base u r
    else readFileOther base u cs
  | [] => readFileOther base u cs
where
  /-- After one slash that is not followed by another. -/
  readFileSlashOther (base : Option Url) (u : Url) (cs : List Char) : Except ParseError Url :=
    match base with
    | some b =>
      let u := { u with host := b.host }
      let init := match b.path.segs with
        | first :: _ => if !startsWithDriveLetter cs && isNormalizedDriveLetter first then [first] else []
        | [] => []
      .ok (readPathFrom u init cs)
    | none => .ok (readPathFrom u [] cs)
  /-- Without a slash. -/
  readFileOther (base : Option Url) (u : Url) (cs : List Char) : Except ParseError Url :=
    match base with
    | some b =>
      let u := { u with host := b.host, path := b.path, query := b.query }
      match cs with
      | '?' :: _ => .ok (readTail true { u with query := none } cs)
      | '#' :: _ => .ok (readTail true u cs)
      | [] => .ok u
      | _ =>
        let init := if startsWithDriveLetter cs then [] else shorten true b.path.segs
        .ok (readPathFrom { u with query := none } init cs)
    | none => .ok (readPathFrom u [] cs)

/-- A text without a scheme, against a base that is not a file address. -/
def readRelative (b : Url) (cs : List Char) : Except ParseError Url :=
  let special := b.isSpecial
  let u : Url := { scheme := b.scheme }
  let slash := match cs with
    | '/' :: r => some r
    | '\\' :: r => if special then some r else none
    | _ => none
  let inherited : Url :=
    { u with username := b.username, password := b.password, host := b.host, port := b.port }
  match slash with
  | some r =>
    match r with
    | c :: r' =>
      if special && (c = '/' || c = '\\') then readAuthority u (dropSlashes r')
      else if c = '/' then readAuthority u r'
      else .ok (readPathFrom inherited [] r)
    | [] => .ok (readPathFrom inherited [] r)
  | none =>
    let u := { inherited with path := b.path, query := b.query }
    match cs with
    | '?' :: _ => .ok (readTail special { u with query := none } cs)
    | '#' :: _ => .ok (readTail special u cs)
    | [] => .ok u
    | _ => .ok (readPathFrom { u with query := none } (shorten false b.path.segs) cs)

/-- Read a text as a web address, against a base address when one is given. -/
def parseWith (base : Option Url) (input : String) : Except ParseError Url :=
  let cs := preprocess input
  match splitScheme cs with
  | some (scheme, rest) =>
    let u : Url := { scheme }
    if scheme = "file" then
      readFile (match base with | some b => if b.scheme = "file" then some b else none | none => none) rest
    else if isSpecialScheme scheme then
      match base, rest with
      | some b, '/' :: '/' :: r =>
        if b.scheme = scheme then readAuthority u (dropSlashes r) else readAuthority u (dropSlashes rest)
      | some b, _ =>
        if b.scheme = scheme then readRelative b rest else readAuthority u (dropSlashes rest)
      | none, _ => readAuthority u (dropSlashes rest)
    else
      match rest with
      | '/' :: '/' :: r => readAuthority u r
      | '/' :: r => .ok (readPathFrom u [] r)
      | _ => .ok (readWholePath u rest)
  | none =>
    match base with
    | none => .error .relativeWithoutBase
    | some b =>
      if b.cannotBeABase then
        match cs with
        | '#' :: f =>
          .ok { b with fragment := some (String.ofList (encodeChars .fragment f)) }
        | _ => .error .relativeWithOpaqueBase
      else if b.scheme = "file" then readFile (some b) cs
      else readRelative b cs

/-- Read a text as a web address on its own. -/
def parse (input : String) : Except ParseError Url := parseWith none input

/-- Resolve a text against this address. -/
def Url.join (base : Url) (input : String) : Except ParseError Url := parseWith (some base) input

/-- The address with its path set anew, read as a path of this address. -/
def Url.withPath (u : Url) (path : String) : Url :=
  match u.path with
  | .whole _ =>
    let cs := path.toList
    let cs := match cs with
      | '/' :: r => "%2F".toList ++ encodeChars .control r
      | r => encodeChars .control r
    { u with path := .whole (String.ofList cs) }
  | .segments _ =>
    let r := readPathStart { u with query := none, fragment := none } path.toList
    { u with path := r.path }

end Discovery.Web
