import Discovery.Order
import Discovery.Text.Blank
import Discovery.Text.Search
import Discovery.Web.Form
import Discovery.Web.Parse
/-!
# Archived addresses and their classes

An archive of addresses holds many that differ only in what does not matter for
probing. Two addresses are alike when they have the same host and port, the same path
and the same set of query names. A path whose last segment names a static asset (a
picture, a font, a style sheet, a document or a media file, by its extension in any
case) is cut back to its directory, and loses its query and fragment; such an address
is written anew, while any other keeps its text. A text that is no address stands for
itself, as a host with no path and no query.

A corpus is normalized by trimming its lines, dropping the empty ones, sorting them and
keeping the first of each class. The slug of a target names it in file names: scheme,
host and port, and path, with dots, colons and slashes turned into underscores.
-/

namespace Discovery.Corpus

open Discovery.Text Discovery.Web

/-- The extensions of static assets. -/
def assetExtensions : List String :=
  ["jpg", "jpeg", "woff", "woff2", "ico", "css", "eot", "pdf", "ttf", "gif", "doc", "docx", "xls",
   "xlsx", "svg", "csv", "mp3", "mp4", "wma", "ppt", "png", "pptx", "swf"]

/-- A segment that names a static asset: something, a dot and an asset extension, in
any ASCII case. -/
def isAssetName (seg : List Char) : Bool :=
  let low := seg.map Char.toLower
  assetExtensions.any fun ext =>
    let tail := '.' :: ext.toList
    low.length > tail.length && tail.reverse.isPrefixOf low.reverse

/-- An archived address split into what decides its class. -/
structure Entry where
  host : String
  path : String
  query : List String
  url : String
  deriving DecidableEq, Repr

/-- The class of an entry. -/
def Entry.key (e : Entry) : String × String × List String := (e.host, e.path, e.query)

/-- The address cut back to the directory of an asset, if its last segment is one. -/
def stripAsset (u : Url) : Option Url :=
  let path := u.pathText.toList
  let seg := (path.reverse.takeWhile (· ≠ '/')).reverse
  if seg.length = path.length then none
  else if isAssetName seg then
    let dir := path.take (path.length - seg.length)
    some { u.withPath (String.ofList dir) with query := none, fragment := none }
  else none

/-- Read one archived line. -/
def Entry.parse (raw : String) : Entry :=
  match Web.parse raw with
  | .error _ => ⟨raw, "", [], raw⟩
  | .ok u =>
    let (v, url) := match stripAsset u with
      | some v => (v, v.render)
      | none => (u, raw)
    ⟨v.hostWithPort, v.pathText, sortedSet (formNames (v.query.getD "")), url⟩

/-- Keep the first entry of each class, in order. -/
def firstOfEachClass (es : List Entry) : List Entry :=
  (es.foldl (fun (acc : List (String × String × List String) × List Entry) e =>
    if acc.1.contains e.key then acc else (e.key :: acc.1, e :: acc.2)) ([], [])).2.reverse

/-- One address per class, from the trimmed, non-empty lines in sorted order. -/
def normalize (raw : List String) : List String :=
  let lines := ((raw.map trim).filter (!·.isEmpty)).mergeSort fun a b => decide (a ≤ b)
  (firstOfEachClass (lines.map Entry.parse)).map (·.url)

/-- A target named for file names. -/
def slug (base : String) : String :=
  match Web.parse base with
  | .error _ => replaceChars base ['.', ':', '/'] "_"
  | .ok u =>
    let host := replaceChars u.hostWithPort ['.', ':'] "_"
    let p := u.pathText
    let path := if p = "/" then ""
      else replaceChars (String.ofList (p.toList.reverse.dropWhile (· = '/')).reverse) ['/'] "_"
    u.scheme ++ "_" ++ host ++ path

end Discovery.Corpus
