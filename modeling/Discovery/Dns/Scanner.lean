import Discovery.Dns.Resolver
import Discovery.Finding
import Discovery.Options.Basic
import Discovery.Time
/-!
# Scanning names of a domain

The name scanner joins each word to the domain (or takes a corpus name whole) and looks
the name up. A name that is not found gives no finding and no error; a failed lookup is
an error of the scan. A found name gives one finding per address family when addresses
are shown (IPv4 first, each listing its addresses in the resolver's order), else a
single finding that carries the canonical name when that is asked for and known.
Findings of names are always shown.

`process_ok_entity` says that every finding names the name that was looked up.
-/

namespace Discovery.Dns

open Discovery.Net Discovery.Time

/-- The name scanner: its options and its resolver. -/
structure Scanner where
  options : Options
  resolver : Resolver

/-- The name looked up for a candidate. -/
def Scanner.hostname (sc : Scanner) (c : Candidate) : String :=
  if c.preResolved then c.value else c.value ++ "." ++ sc.options.url

/-- The IPv4 addresses first, then the IPv6 ones, each family only when present. -/
def families (addrs : List IpAddr) : List (List IpAddr) :=
  [addrs.filter IpAddr.isV4, addrs.filter (!·.isV4)].filter (!·.isEmpty)

/-- Addresses written one after another. -/
def joinAddrs (addrs : List IpAddr) : String := ", ".intercalate (addrs.map IpAddr.display)

/-- The findings of a name that has these addresses. -/
def Scanner.findingsOf (sc : Scanner) (name : String) (addrs : List IpAddr) : List Finding :=
  if sc.options.showIps then
    (families addrs).map fun fam => { entity := name, extra := some (joinAddrs fam) }
  else
    let extra :=
      if sc.options.showCname then
        match sc.resolver.lookupCname name with
        | .ok c => some c
        | .error _ => none
      else none
    [{ entity := name, extra }]

/-- Look up one candidate. -/
def Scanner.process (sc : Scanner) (c : Candidate) : Except ScanError (List Finding) :=
  let name := sc.hostname c
  match sc.resolver.lookupHost name with
  | .error .notFound => .ok []
  | .error (.failed reason) => .error (.resolve name reason)
  | .ok addrs => .ok (sc.findingsOf name addrs)

/-- The debugging notes of looking up a candidate: how many addresses a found name has,
and a failed lookup of its canonical name when one was asked for. -/
def Scanner.notes (sc : Scanner) (c : Candidate) : List (String × List (String × String)) :=
  let name := sc.hostname c
  match sc.resolver.lookupHost name with
  | .ok addrs =>
    [("resolved", [("name", name), ("count", toString addrs.length)])] ++
      if !sc.options.showIps && sc.options.showCname then
        match sc.resolver.lookupCname name with
        | .error e => [("no CNAME", [("name", name), ("error", e.message)])]
        | .ok _ => []
      else []
  | .error _ => []

/-- The extra text of a finding in brackets, after a space. -/
def extraText (r : Finding) : String :=
  match r.extra with
  | some e => " [" ++ e ++ "]"
  | none => ""

/-- Render a finding of a name at a time. -/
def render (now : DateTime) (r : Finding) : Rendered :=
  { display := "Found: " ++ r.entity ++ extraText r,
    archive := "[" ++ now.stamp ++ "] - " ++ r.entity ++ extraText r,
    status := r.status }

theorem process_ok_entity (sc : Scanner) (c : Candidate) (rs : List Finding)
    (h : sc.process c = .ok rs) : ∀ r ∈ rs, r.entity = sc.hostname c ∧ r.status = 0 := by
  unfold Scanner.process at h
  simp only at h
  split at h
  · cases h; simp
  · cases h
  · cases h
    intro r hr
    unfold Scanner.findingsOf at hr
    split at hr
    · simp only [List.mem_map] at hr
      obtain ⟨_, _, rfl⟩ := hr
      exact ⟨rfl, rfl⟩
    · simp only [List.mem_singleton] at hr
      subst hr
      exact ⟨rfl, rfl⟩

end Discovery.Dns
