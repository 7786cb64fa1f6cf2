import Discovery.Text.Blank
import Discovery.Text.Search
/-!
# Wildcard signatures

A site that answers every path, existing or not, in the same way is a wildcard site.
Paths ending in a slash are directories and all others files; each of these two scopes
may have its own signature: the status that the site gives to paths that do not exist,
and what tells those answers apart from real ones — the page title, the length of the
body once every copy of the probed address is cut out of it, or nothing but the status.

A page title is the text between the first `<title>` and the first `</title>` after it,
in any ASCII case and across lines, trimmed.
-/

namespace Discovery.Wildcard

open Discovery.Text

/-- Which signature applies to a path. -/
inductive Scope where
  | file
  | directory
  deriving DecidableEq, Repr

/-- Paths ending in a slash are directories. -/
def Scope.of (entity : String) : Scope :=
  if endsWith entity "/" then .directory else .file

/-- What tells a wildcard answer apart beyond its status. -/
inductive Discriminator where
  | title (text : String)
  | contentLength (bytes : Nat)
  | statusOnly
  deriving DecidableEq, Repr

/-- The wildcard answer of one scope. -/
structure ScopeSignature where
  status : Nat
  discriminator : Discriminator
  deriving DecidableEq, Repr

/-- The wildcard answers of both scopes, each possibly absent. -/
structure Signature where
  file : Option ScopeSignature := none
  directory : Option ScopeSignature := none
  deriving DecidableEq, Repr

/-- `pat` starts `s`, comparing ASCII letters without case. -/
def startsWithCaseless (pat s : List Char) : Bool :=
  match pat, s with
  | [], _ => true
  | _ :: _, [] => false
  | p :: ps, c :: cs => p.toLower == c.toLower && startsWithCaseless ps cs

/-- What follows the first `<title>`. -/
def afterTitleOpen : List Char → Option (List Char)
  | [] => none
  | c :: cs =>
    if startsWithCaseless "<title>".toList (c :: cs) then some ((c :: cs).drop 7)
    else afterTitleOpen cs

/-- What comes before the first `</title>`, if there is one. -/
def beforeTitleClose : List Char → Option (List Char)
  | [] => none
  | c :: cs =>
    if startsWithCaseless "</title>".toList (c :: cs) then some []
    else (beforeTitleClose cs).map (c :: ·)

/-- The trimmed title of a page. -/
def title? (body : String) : Option String :=
  ((afterTitleOpen body.toList).bind beforeTitleClose).map fun cs => String.ofList (trimChars cs)

/-- The UTF-8 length of a body without any copy of the probed address. -/
def strippedLength (body url : String) : Nat :=
  if url.isEmpty then body.utf8ByteSize else (replace body url "").utf8ByteSize

/-- An answer with this status and body, to this address, looks like the wildcard. -/
def ScopeSignature.matches (sig : ScopeSignature) (status : Nat) (body url : String) : Bool :=
  status == sig.status &&
    match sig.discriminator with
    | .title t => title? body == some t
    | .contentLength n => strippedLength body url == n
    | .statusOnly => true

/-- The signature of a scope. -/
def Signature.scope (sig : Signature) : Scope → Option ScopeSignature
  | .file => sig.file
  | .directory => sig.directory

/-- Some scope has a wildcard answer. -/
def Signature.isWildcard (sig : Signature) : Bool := sig.file.isSome || sig.directory.isSome

/-- An answer in this scope is the wildcard's and not a finding. -/
def Signature.isFalsePositive (sig : Signature) (scope : Scope) (status : Nat)
    (body url : String) : Bool :=
  match sig.scope scope with
  | some s => s.matches status body url
  | none => false

end Discovery.Wildcard
