import Discovery.Finding
import Discovery.Options.Basic
import Discovery.Time
import Discovery.Text.Pad
import Discovery.Web.Parse
import Discovery.Wildcard.Calibrate
/-!
# Scanning paths of a web site

The path scanner joins each word to the base address (or takes a corpus address
whole), asks the site for it and keeps what came back. Before its findings can be
shown, the scanner must know the site's wildcard signature, from calibration or given
outright. A finding that looks like the wildcard answer of its scope is a false
positive; one with an excluded status, or whose body holds the excluded text, is
missed; every other one is found. Only found findings are shown, unless the scan is
verbose, and only found ones go to the archive, which keeps paths without the scheme and
host.
-/

namespace Discovery.Dir

open Discovery.Text Discovery.Time Discovery.Web Discovery.Wildcard

/-- The path scanner: its options and, once known, the site's wildcard signature. -/
structure Scanner where
  options : Options
  signature : Option Signature := none
  deriving Repr

/-- What a finding turned out to be. -/
inductive Verdict where
  | found
  | falsePositive
  | missed
  deriving DecidableEq, Repr

/-- The word shown in front of a verbose line. -/
def Verdict.label : Verdict → String
  | .found => "FOUND"
  | .falsePositive => "FALSE POSITIVE"
  | .missed => "MISSED"

/-- The address that was asked for: a corpus address itself, or the base address with
the entity after it. -/
def Scanner.probedUrl (sc : Scanner) (r : Finding) : String :=
  if r.isEntityUrl then r.entity else sc.options.url ++ r.entity

/-- The status is excluded, or the body holds the non-empty excluded text. -/
def Scanner.isExcluded (sc : Scanner) (r : Finding) : Bool :=
  sc.options.excludedStatusParsed.contains r.status ||
    match sc.options.excludeString with
    | some needle => !needle.isEmpty && contains (r.content.getD "") needle
    | none => false

/-- The verdict on a finding under a signature. -/
def Scanner.verdict (sc : Scanner) (sig : Signature) (r : Finding) : Verdict :=
  if sig.isFalsePositive (Scope.of r.entity) r.status (r.content.getD "") (sc.probedUrl r) then
    .falsePositive
  else if sc.isExcluded r then .missed
  else .found

/-- The path of a finding for the archive: a corpus address without its
`scheme://host[:port]/` in front, as far as it starts with that; a word as it is. -/
def archivePath (r : Finding) : String :=
  if !r.isEntityUrl then r.entity
  else
    match parse r.entity with
    | .error _ => r.entity
    | .ok u => (stripPrefix? r.entity (u.scheme ++ "://" ++ u.hostWithPort ++ "/")).getD r.entity

/-- The redirect part of a line, empty without a non-empty redirect. -/
def redirectText (r : Finding) : String :=
  match r.redirect with
  | some t => if t.isEmpty then "" else "  ->  " ++ t
  | none => ""

/-- The shown line: the verdict when verbose, the time, the status, the size, the
address and the redirect. -/
def Scanner.displayLine (sc : Scanner) (v : Verdict) (now : DateTime) (r : Finding) : String :=
  (if sc.options.verbose then alignLeft 16 v.label else "") ++
    "[" ++ now.clock ++ "]" ++ alignRight 8 (toString r.status) ++
    alignRight 12 (toString (r.size.getD 0)) ++ " B     -     " ++ sc.probedUrl r ++ redirectText r

/-- The archive line of a found finding. -/
def archiveLine (now : DateTime) (r : Finding) : String :=
  "[" ++ now.stamp ++ "] - /" ++ archivePath r ++ " - " ++ toString r.status ++ redirectText r

/-- Render a finding at a time; only a scanner with a signature can. -/
def Scanner.render (sc : Scanner) (now : DateTime) (r : Finding) : Except ScanError Rendered :=
  match sc.signature with
  | none => .error .notCalibrated
  | some sig =>
    let v := sc.verdict sig r
    if v ≠ .found && !sc.options.verbose then .ok { status := r.status }
    else
      .ok { display := sc.displayLine v now r,
            archive := if v = .found then archiveLine now r else "",
            status := r.status }

section Probing

variable {σ : Type}

/-- Calibrate against the site; the signature is kept only when calibration succeeds. -/
def Scanner.setup (t : Transport σ) (tokens : Tokens) (sc : Scanner) (s : σ) :
    Except ScanError Scanner × σ :=
  match calibrate t tokens sc.options.url s with
  | (.ok sig, s) => (.ok { sc with signature := some sig }, s)
  | (.error e, s) => (.error e, s)

/-- The entity and the address of a candidate: a corpus address is both; a word loses
one leading slash and gains a slash at the end when the scan asks for one. -/
def Scanner.target (sc : Scanner) (c : Candidate) : String × String :=
  if c.preResolved then (c.value, c.value)
  else
    let word := (stripPrefix? c.value "/").getD c.value
    let entity := word ++ (if sc.options.useSlash then "/" else "")
    (entity, sc.options.url ++ entity)

/-- Probe one candidate. -/
def Scanner.process (t : Transport σ) (sc : Scanner) (c : Candidate) (s : σ) :
    Except ScanError (List Finding) × σ :=
  let (entity, url) := sc.target c
  match t url s with
  | (.error e, s) => (.error (e.at url), s)
  | (.ok reply, s) =>
    (.ok [{ entity, status := reply.status, size := reply.size, content := some reply.body,
            isEntityUrl := c.preResolved, redirect := reply.redirect }], s)

end Probing

end Discovery.Dir
